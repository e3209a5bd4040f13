import Mathlib.Data.List.Dedup
import GolutraAgent.Library.Text
import GolutraAgent.Library.Transaction
import GolutraAgent.Library.Uuid

/-
  This file models the questions that are put to a user, and the answers that
  are accepted. The code counts the answers, and looks one up for each question;
  from that it follows that questions and answers are paired.

  Main declarations:
    * `UserQuestionRequest.answers_paired`
-/

namespace GolutraAgent

open Transaction

inductive UserQuestionMode
| single
| multiple
deriving DecidableEq

structure UserQuestionOption where
  id : String
  label : String
  description : Option String

structure UserQuestionPrompt where
  id : String
  header : String
  question : String
  mode : UserQuestionMode
  options : List UserQuestionOption

structure UserQuestionRequest where
  questionId : Uuid
  questions : List UserQuestionPrompt

structure UserQuestionAnswer where
  questionId : String
  selectedOptionIds : List String
  freeText : Option String

structure UserQuestionResolution where
  questionId : Uuid
  answers : List UserQuestionAnswer

def checkQuestion (holds : Bool) (message : String) : Except String Unit :=
  if holds then .ok () else .error message

def validateText (label value : String) : Except String Unit :=
  checkQuestion (!Text.isBlank value && value.length ≤ 2048)
    (label ++ " must contain between 1 and 2048 characters")

/- The identifiers that were seen are those of a set. -/
def validateOption (question : UserQuestionPrompt) (seen : List String)
    (option : UserQuestionOption) : Except String (List String) := do
  validateText "option id" option.id
  validateText "option label" option.label
  option.description.forM (validateText "option description")
  checkQuestion (option.id ∉ seen) ("question `" ++ question.id ++ "` has duplicate option id `" ++
    option.id ++ "`")
  return option.id :: seen

def validateQuestion (seen : List String) (question : UserQuestionPrompt) :
    Except String (List String) := do
  validateText "question id" question.id
  validateText "question header" question.header
  validateText "question text" question.question
  checkQuestion (question.id ∉ seen) ("duplicate question id `" ++ question.id ++ "`")
  checkQuestion (2 ≤ question.options.length && question.options.length ≤ 8) ("question `" ++
      question.id ++ "` options must contain 2..=8 entries")
  let _ ← question.options.foldlM (validateOption question) []
  return question.id :: seen

def validateAnswer (answers : List UserQuestionAnswer)
    (question : UserQuestionPrompt) : Except String Unit := do
  let name := "question `" ++ question.id ++ "`"
  let answer ← (answers.find? (·.questionId = question.id)).elim
    (.error (name ++ " is unanswered")) .ok
  let selected := answer.selectedOptionIds.dedup
  answer.freeText.forM (validateText (name ++ " free text"))
  checkQuestion (selected ≠ [] || answer.freeText.isSome)
    (name ++ " requires a selection or free text")
  checkQuestion (question.mode = .multiple ||
    selected.length ≤ 1) (name ++ " accepts one selection")
  checkQuestion (selected.length = answer.selectedOptionIds.length) (name ++ " repeats a selection")
  (selected.find? (fun id =>
    !question.options.any (·.id = id))).forM
      (fun unknown => .error (name ++ " has unknown option `" ++ unknown ++ "`"))

namespace UserQuestionRequest

variable (request : UserQuestionRequest)

def validate : Except String Unit := do
  checkQuestion (request.questions ≠ [] && request.questions.length ≤ 3)
    "questions must contain 1..=3 entries"
  let _ ← request.questions.foldlM validateQuestion []
  return ()

def validateResolution (resolution : UserQuestionResolution) : Except String Unit := do
  checkQuestion (resolution.questionId = request.questionId)
    "question resolution does not match the pending request"
  checkQuestion (resolution.answers.length = request.questions.length)
    "every pending question requires one answer"
  request.questions.forM (validateAnswer resolution.answers)

end UserQuestionRequest

/- An answer that its question allows. -/
structure Answers (question : UserQuestionPrompt) (answer : UserQuestionAnswer) : Prop where
  options : ∀ id ∈ answer.selectedOptionIds, ∃ option ∈ question.options, option.id = id
  single : question.mode = .single → answer.selectedOptionIds.length ≤ 1
  answered : answer.selectedOptionIds ≠ [] ∨ answer.freeText.isSome = true

theorem checkQuestion_eq_ok {holds : Bool} {message : String}
    {result : Unit} : checkQuestion holds message = .ok result ↔ holds = true := by
  cases holds <;> simp [checkQuestion]

/- The loop has seen no identifier twice. -/
theorem validateQuestion_distinct {questions : List UserQuestionPrompt} {seen result : List String}
    (hQuestions : questions.foldlM validateQuestion seen = .ok result) (hSeen : seen.Nodup) :
    (seen.reverse ++ questions.map UserQuestionPrompt.id).Nodup := by
  induction questions generalizing seen with
  | nil => simpa using hSeen
  | cons question questions ih =>
    rcases bind_eq_ok.mp hQuestions with ⟨next, hQuestion, hRest⟩
    rcases bind_eq_ok.mp hQuestion with ⟨_, -, hQuestion⟩
    rcases bind_eq_ok.mp hQuestion with ⟨_, -, hQuestion⟩
    rcases bind_eq_ok.mp hQuestion with ⟨_, -, hQuestion⟩
    rcases bind_eq_ok.mp hQuestion with ⟨_, hFresh, hQuestion⟩
    rcases bind_eq_ok.mp hQuestion with ⟨_, -, hQuestion⟩
    rcases bind_eq_ok.mp hQuestion with ⟨_, -, hNext⟩
    cases hNext
    have hNew : question.id ∉ seen := by simpa using checkQuestion_eq_ok.mp hFresh
    have hNodup := ih hRest (List.nodup_cons.mpr ⟨hNew, hSeen⟩)
    simpa using hNodup

theorem validateAnswer_eq_ok {answers : List UserQuestionAnswer} {question : UserQuestionPrompt}
    {result : Unit} (hAnswer : validateAnswer answers question = .ok result) :
    ∃ answer ∈ answers, answer.questionId = question.id ∧ Answers question answer := by
  rcases bind_eq_ok.mp hAnswer with ⟨answer, hFind, hAnswer⟩
  rcases bind_eq_ok.mp hAnswer with ⟨_, -, hAnswer⟩
  rcases bind_eq_ok.mp hAnswer with ⟨_, hSome, hAnswer⟩
  rcases bind_eq_ok.mp hAnswer with ⟨_, hSingle, hAnswer⟩
  rcases bind_eq_ok.mp hAnswer with ⟨_, hOnce, hKnown⟩
  rw [checkQuestion_eq_ok] at hSome hSingle hOnce
  have hFound : answers.find? (·.questionId = question.id) = some answer := by
    cases hCase : answers.find? (·.questionId = question.id) <;> simp_all
  refine ⟨answer, List.mem_of_find?_eq_some hFound,
    by simpa using List.find?_some hFound, ?_, ?_, ?_⟩
  · intro id hId
    cases hUnknown : answer.selectedOptionIds.dedup.find?
        (fun id => !question.options.any (·.id = id)) with
    | none =>
      have hAny := List.find?_eq_none.mp hUnknown id (List.mem_dedup.mpr hId)
      simpa using hAny
    | some unknown =>
      rw [hUnknown] at hKnown
      cases hKnown
  · intro hMode
    simp only [hMode, decide_eq_true_eq] at hSingle hOnce
    rw [← hOnce]
    simpa using hSingle
  · simpa using hSome

namespace UserQuestionRequest

/-
  The answers are those of the questions, each once, and each is allowed by its
  question.
-/
theorem answers_paired {request : UserQuestionRequest} {resolution : UserQuestionResolution}
    (hRequest : request.validate = .ok ())
    (hResolution : request.validateResolution resolution = .ok ()) :
    (request.questions.map UserQuestionPrompt.id).Nodup ∧
      (resolution.answers.map UserQuestionAnswer.questionId).Perm
        (request.questions.map UserQuestionPrompt.id) ∧
      ∀ question ∈ request.questions, ∀ answer ∈ resolution.answers,
          answer.questionId = question.id → Answers question answer := by
  rcases bind_eq_ok.mp hRequest with ⟨_, -, hRequest⟩
  rcases bind_eq_ok.mp hRequest with ⟨_, hQuestions, -⟩
  rcases bind_eq_ok.mp hResolution with ⟨_, -, hResolution⟩
  rcases bind_eq_ok.mp hResolution with ⟨_, hLength, hAnswers⟩
  have hDistinct : (request.questions.map UserQuestionPrompt.id).Nodup := by
    exact validateQuestion_distinct hQuestions List.nodup_nil
  have hEach : ∀ question ∈ request.questions,
      ∃ answer ∈ resolution.answers, answer.questionId = question.id ∧ Answers question answer := by
    intro question hQuestion
    rcases forM_ok_of_mem hAnswers question hQuestion with ⟨_, hAnswer⟩
    exact validateAnswer_eq_ok hAnswer
  have hSubset : request.questions.map UserQuestionPrompt.id ⊆
      resolution.answers.map UserQuestionAnswer.questionId := by
    intro id hId
    rcases List.mem_map.mp hId with ⟨question, hIn, rfl⟩
    rcases hEach question hIn with ⟨answer, hAnswer, hSame, -⟩
    exact List.mem_map.mpr ⟨answer, hAnswer, hSame⟩
  have hSame : resolution.answers.length ≤ request.questions.length := by
    exact (of_decide_eq_true (checkQuestion_eq_ok.mp hLength)).le
  -- As many answers as questions, so none is left over.
  have hPerm := (hDistinct.subperm hSubset).perm_of_length_le (by simpa using hSame)
  refine ⟨hDistinct, hPerm.symm, ?_⟩
  intro question hQuestion answer hAnswer hId
  rcases hEach question hQuestion with ⟨other, hOther, hOtherId, hAnswers⟩
  have hEqual := List.inj_on_of_nodup_map (hPerm.nodup_iff.mp hDistinct) hAnswer hOther
    (hId.trans hOtherId.symm)
  rw [hEqual]
  exact hAnswers

def sample : UserQuestionRequest :=
  ⟨⟨0⟩, [⟨"q", "Mode", "Which?", .single, [⟨"a", "A", none⟩, ⟨"b", "B", some "second"⟩]⟩,
    ⟨"r", "Parts", "Which ones?", .multiple, [⟨"a", "A", none⟩, ⟨"c", "C", none⟩]⟩]⟩

/- The second question is answered first. -/
def sampleAnswers : UserQuestionResolution := ⟨⟨0⟩, [⟨"r", ["c", "a"], none⟩, ⟨"q", ["b"], none⟩]⟩

theorem sample_paired : (sampleAnswers.answers.map UserQuestionAnswer.questionId).Perm
      (sample.questions.map UserQuestionPrompt.id) :=
  (answers_paired (show sample.validate = .ok () by rfl)
    (show sample.validateResolution sampleAnswers = .ok () by rfl)).2.1

end UserQuestionRequest

end GolutraAgent
