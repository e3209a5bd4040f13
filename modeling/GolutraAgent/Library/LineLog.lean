import Mathlib.Data.List.Basic
import Mathlib.Logic.Encodable.Basic

/-
  This file develops logs of records that are written one to a line. A record
  carries its number, the digest of the one before it and its own digest, so
  that a log can be checked from its text. An append that was interrupted leaves
  a part of a line at the end of the text; it can be recognised by a reader who
  knows which record was to be appended.

  How records are written is a parameter. What is assumed of it are laws that
  texts of objects in braces meet: a line has no line break, no part of a line
  can be read as a record, and neither can two of them in a row.

  Key definitions include:
    * `LineCodec`
    * `LineLog.lines`
-/

abbrev Bytes := List UInt8

def newline : UInt8 := 10

def carriageReturn : UInt8 := 13

/-
  How a record is written on a line and read back, which bytes are a text, and
  which texts are blank.
-/
structure LineCodec (ρ : Type) where
  encode : ρ → Bytes
  decode : Bytes → Option ρ
  isText : Bytes → Bool
  isBlank : Bytes → Bool
  decode_encode : ∀ record, decode (encode record) = some record
  decode_part : ∀ record part, part <+: encode record → part ≠ encode record → decode part = none
  newline_notMem : ∀ record, newline ∉ encode record
  carriageReturn_notMem : ∀ record, carriageReturn ∉ encode record
  encode_ne_nil : ∀ record, encode record ≠ []
  isBlank_part : ∀ record part rest, part ≠ [] →
    part <+: encode record → isBlank (part ++ rest) = false
  isText_nil : isText [] = true
  isText_newline : isText [newline] = true
  isText_encode : ∀ record, isText (encode record) = true
  isText_append : ∀ front back, isText front = true →
    isText back = true → isText (front ++ back) = true

namespace LineLog

def stripReturn (line : Bytes) : Bytes :=
  if line.getLast? = some carriageReturn then line.dropLast
  else line

/- The lines of a text, with the bytes of the first so far. -/
def linesFrom : Bytes → Bytes → List Bytes
| current, [] => if current = [] then [] else [current]
| current, byte :: rest =>
  if byte = newline then stripReturn current :: linesFrom [] rest
  else linesFrom (current ++ [byte]) rest

/-
  A line break ends a line and a carriage return before it goes with it. Bytes
  after the last break are a line too.
-/
def lines (content : Bytes) : List Bytes := linesFrom [] content

variable {line : Bytes}

theorem linesFrom_append (hBreak : newline ∉ line) (current rest : Bytes) :
    linesFrom current (line ++ rest) = linesFrom (current ++ line) rest := by
  induction line generalizing current with
  | nil => simp
  | cons byte line ih =>
    rw [List.mem_cons, not_or] at hBreak
    rw [List.cons_append, linesFrom, if_neg (Ne.symm hBreak.1), ih hBreak.2]
    simp

theorem stripReturn_of_notMem (hReturn : carriageReturn ∉ line) : stripReturn line = line := by
  unfold stripReturn
  rw [if_neg]
  intro hLast
  exact hReturn (List.mem_of_getLast? hLast)

theorem lines_cons (hBreak : newline ∉ line) (hReturn : carriageReturn ∉ line) (rest : Bytes) :
    lines (line ++ newline :: rest) = line :: lines rest := by
  unfold lines
  rw [linesFrom_append hBreak, List.nil_append, linesFrom,
    if_pos rfl, stripReturn_of_notMem hReturn]

theorem lines_unterminated (hBreak : newline ∉ line) (hLine : line ≠ []) : lines line = [line] := by
  have hLines := linesFrom_append hBreak [] []
  rw [List.append_nil, List.nil_append] at hLines
  rw [lines, hLines, linesFrom, if_neg hLine]

end LineLog

/-
  The number of a record, the digest it names as that of its predecessor, its
  own digest, and the digest it should have.
-/
structure Chain (ρ : Type) where
  sequence : ρ → Nat
  previous : ρ → String
  digest : ρ → String
  sealOf : ρ → String

namespace Chain

variable {ρ : Type}

variable (chain : Chain ρ) (records : List ρ)

def lastDigest : String :=
  match records.getLast? with
  | none => ""
  | some record => chain.digest record

def Extends (record : ρ) : Prop := chain.sequence record = records.length + 1 ∧
    chain.previous record = chain.lastDigest records

instance (chain : Chain ρ) (records : List ρ) (record : ρ) : Decidable
    (chain.Extends records record) :=
  inferInstanceAs (Decidable (_ ∧ _))

def Sealed (chain : Chain ρ) (record : ρ) : Prop := chain.sealOf record = chain.digest record

instance (chain : Chain ρ) (record : ρ) : Decidable (chain.Sealed record) :=
  inferInstanceAs (Decidable (_ = _))

end Chain

namespace LineLog

variable {ρ : Type} (codec : LineCodec ρ) (chain : Chain ρ)

/- The text of a log whose every append was completed. -/
def written (records : List ρ) : Bytes := records.flatMap
    (fun record => codec.encode record ++ [newline])

/- Each record extends those before it, and is sealed. -/
def ChainedFrom : List ρ → List ρ → Prop
| _, [] => True
| read, record :: records =>
  chain.Extends read record ∧ chain.Sealed record ∧ ChainedFrom (read ++ [record]) records

def Chained (records : List ρ) : Prop := ChainedFrom chain [] records

variable {codec chain}

@[simp] theorem written_nil : written codec ([] : List ρ) = [] := rfl

theorem written_cons (record : ρ) (records : List ρ) :
    written codec (record :: records) = codec.encode record ++
        newline :: written codec records := by
  simp [written]

theorem written_concat (records : List ρ) (record : ρ) :
    written codec (records ++ [record]) = written codec records ++
        (codec.encode record ++ [newline]) := by
  simp [written]

theorem chainedFrom_concat (read records : List ρ) (record : ρ) :
    ChainedFrom chain read (records ++ [record]) ↔ ChainedFrom chain read records ∧
        chain.Extends (read ++ records) record ∧ chain.Sealed record := by
  induction records generalizing read with
  | nil => simp [ChainedFrom]
  | cons first records ih => simp [ChainedFrom, ih, and_assoc]

theorem chained_concat (records : List ρ) (record : ρ) :
    Chained chain (records ++ [record]) ↔ Chained chain records ∧
        chain.Extends records record ∧ chain.Sealed record :=
  chainedFrom_concat [] records record

theorem isText_written (records : List ρ) : codec.isText (written codec records) = true := by
  induction records with
  | nil => exact codec.isText_nil
  | cons record records ih =>
    rw [written_cons]
    refine codec.isText_append _ _ (codec.isText_encode record) ?_
    exact codec.isText_append [newline] _ codec.isText_newline ih

end LineLog

/- Why a log is refused. Lines are counted from one. -/
inductive LogFault
| oversized
| notText
| malformed (line : Nat)
| chain (line sequence : Nat)
| digest (sequence : Nat)
deriving DecidableEq

namespace LineLog

variable {ρ : Type} (codec : LineCodec ρ) (chain : Chain ρ)

def verifyFrom (index : Nat) (records : List ρ) : List Bytes → Except LogFault (List ρ)
| [] => .ok records
| line :: rest =>
  if codec.isBlank line then verifyFrom (index + 1) records rest
  else
    match codec.decode line with
    | none => .error (.malformed (index + 1))
    | some record =>
      if ¬ chain.Extends records record then .error (.chain (index + 1) (chain.sequence record))
      else if ¬ chain.Sealed record then .error (.digest (chain.sequence record))
      else verifyFrom (index + 1) (records ++ [record]) rest

def verifyContent (content : Bytes) : Except LogFault (List ρ) :=
  verifyFrom codec chain 0 [] (lines content)

/- A log file that does not exist has no records. -/
def verifyLog (limit : Nat) : Option Bytes → Except LogFault (List ρ)
| none => .ok []
| some content =>
  if limit < content.length then .error .oversized
  else if codec.isText content = false then .error .notText
  else verifyContent codec chain content

variable {codec chain}

theorem isBlank_encode (record : ρ) : codec.isBlank (codec.encode record) = false := by
  have hBlank := codec.isBlank_part record (codec.encode record) [] (codec.encode_ne_nil record)
  simpa using hBlank

variable {index : Nat} {record : ρ}

/- A well written record is read, and extends the chain. -/
theorem verifyFrom_encode {read : List ρ} (hExtends : chain.Extends read record)
    (hSealed : chain.Sealed record) (rest : List Bytes) :
    verifyFrom codec chain index read (codec.encode record :: rest) =
      verifyFrom codec chain (index + 1) (read ++ [record]) rest := by
  rw [verifyFrom, isBlank_encode, codec.decode_encode]
  simp [hExtends, hSealed]

/- The text of a chain is read up to what comes after it. -/
theorem verifyFrom_written {read records : List ρ}
    (hChained : ChainedFrom chain read records) (rest : Bytes) :
    verifyFrom codec chain index read (lines (written codec records ++ rest)) =
      verifyFrom codec chain (index + records.length) (read ++ records) (lines rest) := by
  induction records generalizing index read with
  | nil => simp
  | cons record records ih =>
    obtain ⟨hExtends, hSealed, hRest⟩ := hChained
    rw [written_cons, List.append_assoc, List.cons_append,
      lines_cons (codec.newline_notMem record) (codec.carriageReturn_notMem record),
      verifyFrom_encode hExtends hSealed, ih hRest]
    simp [Nat.add_comm, Nat.add_left_comm]

variable {records : List ρ}

section

variable (hChained : Chained chain records)
include hChained

theorem verifyContent_written :
    verifyContent codec chain (written codec records) = .ok records := by
  rw [verifyContent, ← List.append_nil (written _ _), verifyFrom_written hChained]
  simp [lines, linesFrom, verifyFrom]

variable {limit : Nat}

theorem verifyLog_written {log : Option Bytes} (hLog : log.getD [] = written codec records)
    (hFits : (written codec records).length ≤ limit) :
    verifyLog codec chain limit log = .ok records := by
  cases log with
  | none =>
    have hNone : records = [] := by
      cases records with
      | nil => rfl
      | cons record records => simp [written_cons] at hLog
    rw [hNone]
    rfl
  | some content =>
    simp only [Option.getD_some] at hLog
    rw [hLog, verifyLog, if_neg (Nat.not_lt.2 hFits), isText_written]
    exact verifyContent_written hChained

/- A line that is not a record makes the log unreadable. -/
theorem verifyLog_malformed {rest line : Bytes} {more : List Bytes}
    (hLines : lines rest = line :: more) (hBlank : codec.isBlank line = false)
    (hDecode : codec.decode line = none) (limit : Nat) :
    ∃ fault, verifyLog codec chain limit (some (written codec records ++ rest)) = .error fault := by
  simp only [verifyLog]
  split
  · exact ⟨_, rfl⟩
  · split
    · exact ⟨_, rfl⟩
    · rw [verifyContent, verifyFrom_written hChained, hLines, verifyFrom, hBlank, hDecode]
      simp

/- So does a part of a record at the end. -/
theorem verifyLog_part {part : Bytes} (hPart : part <+: codec.encode record)
    (hProper : part ≠ codec.encode record) (hNonempty : part ≠ []) (limit : Nat) : ∃ fault,
    verifyLog codec chain limit (some (written codec records ++ part)) = .error fault := by
  have hBreak : newline ∉ part := fun hMem => codec.newline_notMem record (hPart.subset hMem)
  have hBlank := codec.isBlank_part record part [] hNonempty hPart
  rw [List.append_nil] at hBlank
  exact verifyLog_malformed hChained (lines_unterminated hBreak hNonempty) hBlank
    (codec.decode_part record part hPart hProper) limit

end

/- The bytes up to the last line break. -/
def completeLines (content : Bytes) : Bytes := (content.reverse.dropWhile (· ≠ newline)).reverse

section

variable {ρ : Type} (codec : LineCodec ρ) (chain : Chain ρ)

/-
  What is left of a log after the part of the pending record at its end is cut
  off: the records, and their text. The log is refused for the fault that was
  found before if that part is not one of the pending record.
-/
def interrupted (content : Bytes) (pending : ρ)
    (fault : LogFault) : Except LogFault (List ρ × Bytes) :=
  let complete := completeLines content
  let trailing := content.drop complete.length
  if trailing = [] ∨ ¬ trailing <+: codec.encode pending then .error fault
  else if codec.isText complete = false then .error fault
  else
    match verifyContent codec chain complete with
    | .error found => .error found
    | .ok records =>
      if ¬ chain.Extends records pending then .error fault
      else .ok (records, complete)

variable {codec chain}

variable {part : Bytes}

theorem completeLines_written (hBreak : newline ∉ part) (records : List ρ) :
    completeLines (written codec records ++ part) = written codec records := by
  have hDrop : ∀ rest : Bytes, (part.reverse ++ rest).dropWhile (· ≠ newline) =
        rest.dropWhile (· ≠ newline) := by
    intro rest
    refine List.dropWhile_append_of_pos ?_
    intro byte hMem
    simp only [decide_eq_true_eq]
    rintro rfl
    exact hBreak (List.mem_reverse.1 hMem)
  rw [completeLines, List.reverse_append, hDrop]
  rcases List.eq_nil_or_concat records with rfl | ⟨before, record, rfl⟩
  · rfl
  · simp [written_concat]

theorem interrupted_part {records : List ρ} {record : ρ}
    (hChained : Chained chain (records ++ [record])) (hPart : part <+: codec.encode record)
    (hNonempty : part ≠ []) (fault : LogFault) :
    interrupted codec chain (written codec records ++ part) record fault =
      .ok (records, written codec records) := by
  obtain ⟨hBefore, hExtends, -⟩ := (chained_concat records record).1 hChained
  have hBreak : newline ∉ part := fun hMem => codec.newline_notMem record (hPart.subset hMem)
  simp only [interrupted, completeLines_written hBreak,
    isText_written, verifyContent_written hBefore]
  simp [hNonempty, hPart, hExtends]

end

end LineLog

/-
  A codec that meets the laws, for records that have numbers:
  the number in unary between braces.
-/

namespace Unary

variable {ρ : Type} [Encodable ρ]

def openBrace : UInt8 := 123

def closeBrace : UInt8 := 125

def one : UInt8 := 49

def body (record : ρ) : Bytes := openBrace :: List.replicate (Encodable.encode record) one

def encode (record : ρ) : Bytes := body record ++ [closeBrace]

def decode (line : Bytes) : Option ρ := (Encodable.decode (line.length - 2)).filter
    (fun record => encode record = line)

theorem closeBrace_notMem (record : ρ) : closeBrace ∉ body record := by
  simp only [body, List.mem_cons, List.mem_replicate, not_or, not_and]
  exact ⟨by decide, fun _ => by decide⟩

variable {record : ρ}

theorem encode_of_decode {line : Bytes}
    (hDecode : decode line = some record) : encode record = line := by
  simpa using (Option.filter_eq_some_iff.1 hDecode).2

theorem length_encode (record : ρ) : (encode record).length = Encodable.encode record + 2 := by
  simp [encode, body]

theorem decode_encode (record : ρ) : decode (encode record) = some record := by
  rw [decode, length_encode]
  simp

/- The closing brace stands at the end and nowhere else. -/
theorem decode_part (record : ρ) (part : Bytes) (hPart : part <+: encode record)
    (hProper : part ≠ encode record) : (decode part : Option ρ) = none := by
  rw [Option.eq_none_iff_forall_ne_some]
  intro found hFound
  have hLine := encode_of_decode hFound
  rcases List.prefix_concat_iff.1 hPart with hEq | hBody
  · exact hProper hEq
  · refine closeBrace_notMem record (hBody.subset ?_)
    rw [← hLine]
    simp [encode]

theorem mem_encode {byte : UInt8} (hMem : byte ∈ encode record) :
    byte = openBrace ∨ byte = one ∨ byte = closeBrace := by
  simp only [encode, body, List.mem_cons, List.mem_append, List.mem_replicate] at hMem
  tauto

end Unary

def LineCodec.unary (ρ : Type) [Encodable ρ] : LineCodec ρ where
  encode := Unary.encode
  decode := Unary.decode
  isText := fun _ => true
  isBlank := fun line => line.all (· = 32)
  decode_encode := Unary.decode_encode
  decode_part := Unary.decode_part
  newline_notMem := fun record hMem => by
    have hByte := Unary.mem_encode hMem
    revert hByte
    decide
  carriageReturn_notMem := fun record hMem => by
    have hByte := Unary.mem_encode hMem
    revert hByte
    decide
  encode_ne_nil := fun record => by simp [Unary.encode]
  isBlank_part := by
    rintro record part rest hPart ⟨after, hAfter⟩
    cases part with
    | nil => exact absurd rfl hPart
    | cons byte part =>
      rw [Unary.encode, Unary.body, List.cons_append, List.cons_append, List.cons.injEq] at hAfter
      rw [hAfter.1]
      rfl
  isText_nil := rfl
  isText_newline := rfl
  isText_encode := fun _ => rfl
  isText_append := fun _ _ _ _ => rfl

namespace Unary

variable {ρ : Type} [Encodable ρ] [DecidableEq ρ]

/- Number the records of a list first. -/
@[reducible] def favouring (few : List ρ) : Encodable ρ where
  encode := fun record =>
    if record ∈ few then few.idxOf record
    else few.length + Encodable.encode record
  decode := fun number =>
    if number < few.length then few[number]?
    else Encodable.decode (number - few.length)
  encodek := by
    intro record
    by_cases hMem : record ∈ few
    · have hIndex := List.idxOf_lt_length_of_mem hMem
      simp [hMem, hIndex]
    · simp [hMem]

end Unary

/- The unary codec with short lines for a few records. -/
def LineCodec.favouring {ρ : Type} [Encodable ρ] [DecidableEq ρ] (few : List ρ) : LineCodec ρ :=
  @LineCodec.unary ρ (Unary.favouring few)
