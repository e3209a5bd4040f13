import Mathlib.Order.Defs.Unbundled
import GolutraAgent.Library.Machine

/-
  This file develops programs of atomic commands. A program performs one command
  after the other, and what it does next depends on the answers; it may end in
  an error. The world may change between two commands, and the process may crash
  there.

  The judgement `Program.Keeps` is a weakest precondition under interference:
  whatever worlds the commands meet, each of them keeps a guarantee. Its uses
  are developed here. Under a lock, a part of the world is left alone between
  two commands, and the guarantee is an invariant of that part; a program that
  is alone in its world is the case where that part is all of it. Without a
  lock, all that happens leads to a later world, in a preorder, and so does each
  command.

  Key definitions include:
    * `Interface`
    * `Program`
-/

/- Commands, and the type of the answer of each. -/
structure Interface where
  Command : Type
  Answer : Command → Type

/- How a world answers the commands, and what it is after each. -/
abbrev Interface.Handler (interface : Interface) (ω : Type) : Type :=
  (command : interface.Command) → ω → interface.Answer command × ω

/- A handler that depends on choices of the environment. -/
abbrev Interface.Chosen (interface : Interface) (χ ω : Type) : Type :=
  (command : interface.Command) → χ → ω → interface.Answer command × ω

inductive Program (interface : Interface) (ε α : Type) : Type
| done (result : α)
| fail (error : ε)
| perform (command : interface.Command) (next : interface.Answer command → Program interface ε α)

namespace Program

variable {interface : Interface} {ε ε' α β : Type}

def bind : Program interface ε α → (α → Program interface ε β) → Program interface ε β
| .done result, rest => rest result
| .fail error, _ => .fail error
| .perform command next, rest => .perform command (fun answer => (next answer).bind rest)

instance : Monad (Program interface ε) where
  pure := .done
  bind := bind

def call (command : interface.Command) : Program interface ε (interface.Answer command) :=
  .perform command .done

def ofExcept : Except ε α → Program interface ε α
| .ok result => .done result
| .error error => .fail error

/- Run a program and go on with how it ended. -/
def outcome : Program interface ε α → Program interface ε' (Except ε α)
| .done result => .done (.ok result)
| .fail error => .done (.error error)
| .perform command next => .perform command (fun answer => (next answer).outcome)

section

variable {ω χ ν : Type}

/-
  After a command has left the part `v` of the world, the next one meets a world
  that `meets` relates to `v`, and keeps the guarantee `keeps` there. The
  program ends in `good` or in `bad`. The choices of the environment are the
  argument `χ` of a command.
-/
def Keeps (handle : interface.Chosen χ ω)
    (part : ω → ν) (meets : ν → ω → Prop) (keeps : ω → ω → Prop) (good : α → ν → Prop)
    (bad : ε → ν → Prop) : Program interface ε α → ν → Prop
| .done result, v => good result v
| .fail error, v => bad error v
| .perform command next, v =>
  ∀ choice w, meets v w → keeps w (handle command choice w).2 ∧
      (next (handle command choice w).1).Keeps handle part meets keeps good bad
        (part (handle command choice w).2)

variable {handle : interface.Chosen χ ω}
variable {part : ω → ν} {meets : ν → ω → Prop} {keeps : ω → ω → Prop}
variable {good : α → ν → Prop} {bad : ε → ν → Prop}

namespace Keeps

variable {program : Program interface ε α} {v : ν}

theorem mono {good' : α → ν → Prop} {bad' : ε → ν → Prop}
    (hGood : ∀ result v, good result v → good' result v)
    (hBad : ∀ error v, bad error v → bad' error v)
    (hKeeps : program.Keeps handle part meets keeps good bad v) :
    program.Keeps handle part meets keeps good' bad' v := by
  induction program generalizing v with
  | done result => exact hGood result v hKeeps
  | fail error => exact hBad error v hKeeps
  | perform command next ih =>
    intro choice w hMeets
    obtain ⟨hKept, hNext⟩ := hKeeps choice w hMeets
    exact ⟨hKept, ih _ hNext⟩

theorem bind {good : β → ν → Prop} {rest : α → Program interface ε β}
    (hKeeps : program.Keeps handle part meets keeps
      (fun result v => (rest result).Keeps handle part meets
        keeps good bad v) bad v) : (program >>= rest).Keeps handle part meets keeps good bad v := by
  induction program generalizing v with
  | done result => exact hKeeps
  | fail error => exact hKeeps
  | perform command next ih =>
    intro choice w hMeets
    obtain ⟨hKept, hNext⟩ := hKeeps choice w hMeets
    exact ⟨hKept, ih _ hNext⟩

theorem outcome {good : Except ε α → ν → Prop} {bad : ε' → ν → Prop}
    (hKeeps : program.Keeps handle part meets keeps (fun result => good (.ok result))
      (fun error => good (.error error)) v) :
    program.outcome.Keeps handle part meets keeps good bad v := by
  induction program generalizing v with
  | done result => exact hKeeps
  | fail error => exact hKeeps
  | perform command next ih =>
    intro choice w hMeets
    obtain ⟨hKept, hNext⟩ := hKeeps choice w hMeets
    exact ⟨hKept, ih _ hNext⟩

theorem ofExcept {check : Except ε α} (hGood : ∀ result, check = .ok result → good result v)
    (hBad : ∀ error, check = .error error → bad error v) :
    (Program.ofExcept check).Keeps handle part meets keeps good bad v := by
  cases check with
  | ok result => exact hGood result rfl
  | error error => exact hBad error rfl

/- A loop keeps what each of its rounds keeps. -/
theorem foldlM {item : Type} {round : β → item → Program interface ε β}
    {loop : β → ν → Prop} {items : List item} (hRound : ∀ x ∈ items, ∀ acc v, loop acc v →
      (round acc x).Keeps handle part meets keeps loop bad v)
    {acc : β} (hLoop : loop acc v) :
    (items.foldlM round acc).Keeps handle part meets keeps loop bad v := by
  induction items generalizing acc v with
  | nil => exact hLoop
  | cons x items ih =>
    apply bind
    refine (hRound x List.mem_cons_self acc v hLoop).mono ?_ (fun _ _ hBad => hBad)
    intro acc v hAcc
    exact ih (fun y hItem => hRound y (List.mem_cons_of_mem _ hItem)) hAcc

end Keeps

end

end Program

/- A world, and the program that holds its lock. -/
structure Locked (interface : Interface) (ω ε α : Type) where
  world : ω
  inside : Option (Program interface ε α)

/-
  A call that got the lock begins; the program inside performs its next command,
  or returns and gives the lock back; its process crashes, which gives the lock
  back too; the world changes outside of the lock.
-/
inductive LockedOp (κ χ η : Type)
| enter (call : κ)
| advance (choice : χ)
| crash
| outside (event : η)

namespace Locked

variable {interface : Interface} {ε α ω χ ν κ η : Type}

def step (handle : interface.Chosen χ ω)
    (program : κ → Program interface ε α) (outside : ω → η → ω) (s : Locked interface ω ε α) :
    LockedOp κ χ η → Locked interface ω ε α
| .enter call =>
  match s.inside with
  | none => { s with inside := some (program call) }
  | some _ => s
| .advance choice =>
  match s.inside with
  | some (.perform command next) =>
    { world := (handle command choice s.world).2
      inside := some (next (handle command choice s.world).1) }
  | _ => { s with inside := none }
| .crash => { s with inside := none }
| .outside event => { s with world := outside s.world event }

variable {handle : interface.Chosen χ ω}
variable {program : κ → Program interface ε α} {outside : ω → η → ω}
variable {part : ω → ν} {meets : ν → ω → Prop} {Inv : ν → Prop}

/- A program keeps an invariant of the protected part. -/
def KeepsInv (handle : interface.Chosen χ ω)
    (part : ω → ν) (meets : ν → ω → Prop) (Inv : ν → Prop) (p : Program interface ε α) (v : ν) :
    Prop :=
  p.Keeps handle part meets (fun _ w => Inv (part w)) (fun _ _ => True) (fun _ _ => True) v

/- The invariant, and that the program inside keeps it. -/
def Kept (handle : interface.Chosen χ ω)
    (part : ω → ν) (meets : ν → ω → Prop) (Inv : ν → Prop) (s : Locked interface ω ε α) : Prop :=
  Inv (part s.world) ∧ ∀ p ∈ s.inside, ∃ v, meets v s.world ∧ KeepsInv handle part meets Inv p v

/- The outside may act at any time, a call once it has the lock. -/
theorem Kept.step (hMeets : ∀ w, Inv (part w) → meets (part w) w)
    (hOutside : ∀ w event, Inv (part w) → Inv (part (outside w event)) ∧
        ∀ v, meets v w → meets v (outside w event))
    {op : LockedOp κ χ η} (hCall : ∀ call, op = .enter call → ∀ v, Inv v →
      KeepsInv handle part meets Inv (program call) v)
    {s : Locked interface ω ε α} (hKept : s.Kept handle part meets Inv) :
    (s.step handle program outside op).Kept handle part meets Inv := by
  obtain ⟨hInv, hInside⟩ := hKept
  cases op with
  | enter call =>
    simp only [Locked.step]
    split
    · refine ⟨hInv, ?_⟩
      rintro p ⟨⟩
      exact ⟨_, hMeets _ hInv, hCall call rfl _ hInv⟩
    · exact ⟨hInv, hInside⟩
  | advance choice =>
    simp only [Locked.step]
    split
    · rename_i command next hSome
      obtain ⟨v, hMet, hKeeps⟩ := hInside _ hSome
      have hNext := hKeeps choice s.world hMet
      refine ⟨hNext.1, ?_⟩
      rintro p ⟨⟩
      exact ⟨_, hMeets _ hNext.1, hNext.2⟩
    · exact ⟨hInv, fun p hSome => by cases hSome⟩
  | crash => exact ⟨hInv, fun p hSome => by cases hSome⟩
  | outside event =>
    obtain ⟨hAfter, hStill⟩ := hOutside s.world event hInv
    refine ⟨hAfter, fun p hSome => ?_⟩
    obtain ⟨v, hMet, hKeeps⟩ := hInside p hSome
    exact ⟨v, hStill v hMet, hKeeps⟩

/-
  If every call keeps the invariant of the protected part, it holds after every
  run, with calls that enter in any order and crash anywhere.
-/
theorem run_invariant (meets : ν → ω → Prop) (hMeets : ∀ w, Inv (part w) → meets (part w) w)
    (hOutside : ∀ w event, Inv (part w) → Inv (part (outside w event)) ∧
        ∀ v, meets v w → meets v (outside w event))
    {ops : List (LockedOp κ χ η)} (hCalls : ∀ call, .enter call ∈ ops → ∀ v, Inv v →
      KeepsInv handle part meets Inv (program call) v)
    {w : ω} (hInit : Inv (part w)) :
    Inv (part (Machine.run (step handle program outside) ⟨w, none⟩ ops).world) := by
  suffices hKept : ∀ s : Locked interface ω ε α, s.Kept handle part meets Inv →
        (Machine.run (step handle program outside) s ops).Kept handle part meets Inv from
    (hKept ⟨w, none⟩ ⟨hInit, fun p hSome => by cases hSome⟩).1
  induction ops with
  | nil => exact fun s hKept => hKept
  | cons op ops ih =>
    intro s hKept
    refine ih (fun call hOp => hCalls call (List.mem_cons_of_mem _ hOp)) _ ?_
    refine hKept.step hMeets hOutside (fun call hEnter => ?_)
    subst hEnter
    exact hCalls call List.mem_cons_self

end Locked

namespace Program

variable {interface : Interface} {ε α β ω : Type}

/- Run a program while nothing else changes the world. -/
def exec (handle : interface.Handler ω) : Program interface ε α → ω → Except ε α × ω
| .done result, w => (.ok result, w)
| .fail error, w => (.error error, w)
| .perform command next, w => (next (handle command w).1).exec handle (handle command w).2

/- Run a program until it is about to perform a command of the kind `stop`. -/
def upTo (stop : interface.Command → Bool)
    (handle : interface.Handler ω) : Program interface ε α → ω → ω
| .done _, w => w
| .fail _, w => w
| .perform command next, w =>
  if stop command then w
  else (next (handle command w).1).upTo stop handle (handle command w).2

/-
  Alone, the program takes the world `w` through worlds that meet the invariant,
  and ends in `good` or in `bad`.
-/
def Runs (handle : interface.Handler ω) (Inv : ω → Prop) (good : α → ω → Prop) (bad : ε → ω → Prop)
    (program : Program interface ε α) (w : ω) : Prop :=
  program.Keeps (fun command (_ : Unit) => handle command) id
    (fun v w => id w = v) (fun _ w => Inv (id w)) good bad w

namespace Runs

variable {handle : interface.Handler ω}
variable {Inv : ω → Prop} {good : α → ω → Prop} {bad : ε → ω → Prop} {w : ω}

variable {result : α}

theorem done (hGood : good result w) : (Program.done result : Program interface ε α).Runs handle
      Inv good bad w := hGood

variable {program : Program interface ε α}

theorem mono {good' : α → ω → Prop} {bad' : ε → ω → Prop}
    (hRuns : program.Runs handle Inv good bad w)
    (hGood : ∀ result w, good result w → good' result w)
    (hBad : ∀ error w, bad error w → bad' error w) : program.Runs handle Inv good' bad' w :=
  Keeps.mono hGood hBad hRuns

variable {rest : α → Program interface ε β}

theorem bind {good : β → ω → Prop}
    (hRuns : program.Runs handle Inv (fun result => (rest result).Runs handle Inv good bad)
      bad w) : (program >>= rest).Runs handle Inv good bad w :=
  Keeps.bind hRuns

/- The first part is run, and then the rest. -/
theorem andThen {middle : α → ω → Prop} {good : β → ω → Prop}
    (hRuns : program.Runs handle Inv middle bad w)
    (hRest : ∀ result w', middle result w' → (rest result).Runs handle Inv good bad w') :
    (program >>= rest).Runs handle Inv good bad w :=
  bind (hRuns.mono hRest (fun _ _ hBad => hBad))

theorem call {command : interface.Command} {rest : interface.Answer command → Program interface ε α}
    (hInv : Inv (handle command w).2)
    (hRest : (rest (handle command w).1).Runs handle Inv good bad (handle command w).2) :
    (Program.call command >>= rest).Runs handle Inv good bad w := by
  rintro choice w' hMeets
  cases hMeets
  exact ⟨hInv, hRest⟩

variable {check : Except ε α}

theorem ofExcept {good : β → ω → Prop}
    (hGood : ∀ result, check = .ok result → (rest result).Runs handle Inv good bad w)
    (hBad : ∀ error, check = .error error → bad error w) :
    (Program.ofExcept check >>= rest).Runs handle Inv good bad w :=
  bind (Keeps.ofExcept hGood hBad)

theorem ofExcept_ok {good : β → ω → Prop} (hCheck : check = .ok result)
    (hRest : (rest result).Runs handle Inv good bad w) :
    (Program.ofExcept check >>= rest).Runs handle Inv good bad w := by
  rw [hCheck]
  exact bind hRest

/- What a program does alone is what its rules say. -/
theorem exec (hRuns : program.Runs handle Inv good bad w) : match program.exec handle w with
    | (.ok result, w') => good result w'
    | (.error error, w') => bad error w' := by
  induction program generalizing w with
  | done result => exact hRuns
  | fail error => exact hRuns
  | perform command next ih => exact ih _ (hRuns () w rfl).2

end Runs

theorem bind_assoc {γ : Type} (program : Program interface ε α)
    (rest : α → Program interface ε β) (last : β → Program interface ε γ) :
    ((program >>= rest) >>= last) = (program >>= fun result => rest result >>= last) := by
  change (program.bind rest).bind last = program.bind (fun result => (rest result).bind last)
  induction program with
  | done result => rfl
  | fail error => rfl
  | perform command next ih => simp only [bind, ih]

/- Where the program would stop, against where it ends. -/
def Staged (stop : interface.Command → Bool) (handle : interface.Handler ω)
    (good : ω → Except ε α × ω → Prop) (program : Program interface ε α) (w : ω) : Prop :=
  good (program.upTo stop handle w) (program.exec handle w)

namespace Staged

variable {stop : interface.Command → Bool}
variable {handle : interface.Handler ω}
variable {good : ω → Except ε β × ω → Prop} {w : ω}

theorem call {command : interface.Command} {rest : interface.Answer command → Program interface ε β}
    (hStop : stop command = false)
    (hRest : (rest (handle command w).1).Staged stop handle good (handle command w).2) :
    (Program.call command >>= rest).Staged stop handle good w := by
  change good (ite (stop command = true) _ _) _
  rw [hStop]
  exact hRest

theorem stopped {command : interface.Command} {rest : interface.Answer command →
      Program interface ε β}
    (hStop : stop command = true) (hGood : good w ((Program.call command >>= rest).exec handle w)) :
    (Program.call command >>= rest).Staged stop handle good w := by
  change good (ite (stop command = true) _ _) _
  rw [hStop]
  exact hGood

theorem ofExcept {check : Except ε α} {rest : α → Program interface ε β}
    (hGood : ∀ result, check = .ok result → (rest result).Staged stop handle good w)
    (hBad : ∀ error, check = .error error → good w (.error error, w)) :
    (Program.ofExcept check >>= rest).Staged stop handle good w := by
  cases check with
  | ok result => exact hGood result rfl
  | error error => exact hBad error rfl

end Staged

/-
  Alone in the world `w`, a program gets as far as another by commands that
  leave the world as it is.
-/
inductive Reads (handle : interface.Handler ω)
    (w : ω) : Program interface ε α → Program interface ε α → Prop
| refl (program : Program interface ε α) : Reads handle w program program
| perform {command : interface.Command} {next : interface.Answer command → Program interface ε α}
    {program : Program interface ε α} (hSame : (handle command w).2 = w)
    (hNext : Reads handle w (next (handle command w).1) program) : Reads handle w
    (.perform command next) program

namespace Reads

variable {handle : interface.Handler ω}
variable {w : ω} {program later : Program interface ε α}

section

variable (hReads : Reads handle w program later)
include hReads

theorem trans {last : Program interface ε α}
    (hLast : Reads handle w later last) : Reads handle w program last := by
  induction hReads with
  | refl => exact hLast
  | perform hSame _ ih => exact .perform hSame (ih hLast)

theorem bind {rest : α → Program interface ε β} :
    Reads handle w (program >>= rest) (later >>= rest) := by
  induction hReads with
  | refl => exact .refl _
  | perform hSame _ ih => exact .perform hSame ih

theorem runs {Inv : ω → Prop} {good : α → ω → Prop} {bad : ε → ω → Prop} (hInv : Inv w)
    (hRuns : later.Runs handle Inv good bad w) : program.Runs handle Inv good bad w := by
  induction hReads with
  | refl => exact hRuns
  | perform hSame _ ih =>
    intro _ found hFound
    obtain rfl : found = w := hFound
    rw [hSame]
    exact ⟨hInv, ih hRuns⟩

end

end Reads

end Program

namespace Locked

variable {interface : Interface} {ε α ω κ η : Type}
variable {handle : interface.Handler ω}
variable {program : κ → Program interface ε α} {Inv Rest : ω → Prop}

/-
  The world of a lock that nothing else touches meets the invariant, and is at
  rest while the lock is free. The program inside keeps to the invariant and
  ends at rest.
-/
structure AtRest (handle : interface.Handler ω)
    (Inv Rest : ω → Prop) (s : Locked interface ω ε α) : Prop where
  inv : Inv s.world
  free : s.inside = none → Rest s.world
  inside : ∀ p ∈ s.inside, p.Runs handle Inv (fun _ => Rest) (fun _ => Rest) s.world

/-
  A process only crashes where that is safe, and a call that gets the lock is
  one of those allowed there.
-/
def Permitted (Safe : ω → Prop) (Allowed : κ → ω → Prop) (s : Locked interface ω ε α) :
    LockedOp κ Unit Empty → Prop
| .enter call => s.inside = none → Allowed call s.world
| .advance _ => True
| .crash => Safe s.world
| .outside event => event.elim

variable {Safe : ω → Prop} {Allowed : κ → ω → Prop}

/- A crash may leave any state that the invariant allows. -/
theorem AtRest.step (hSafe : ∀ w, Inv w → Safe w → Rest w)
    (hCall : ∀ call w, Rest w → Allowed call w → (program call).Runs handle Inv (fun _ => Rest)
        (fun _ => Rest) w)
    (s : Locked interface ω ε α) (op : LockedOp κ Unit Empty)
    (hRest : s.AtRest handle Inv Rest) (hOp : s.Permitted Safe Allowed op) :
    (s.step (fun command _ => handle command) program
      (fun w _ => w) op).AtRest handle Inv Rest := by
  obtain ⟨world, inside⟩ := s
  obtain ⟨hInv, hFree, hInside⟩ := hRest
  cases op with
  | enter call =>
    cases inside with
    | none =>
      refine ⟨hInv, (nomatch ·), ?_⟩
      rintro p ⟨⟩
      exact hCall call world (hFree rfl) (hOp rfl)
    | some p => exact ⟨hInv, hFree, hInside⟩
  | advance choice =>
    cases inside with
    | none => exact ⟨hInv, hFree, hInside⟩
    | some p =>
      have hRuns := hInside p rfl
      cases p with
      | done | fail => exact ⟨hInv, fun _ => hRuns, by simp [Locked.step]⟩
      | perform command next =>
        have hNext := hRuns choice world rfl
        refine ⟨hNext.1, (nomatch ·), ?_⟩
        rintro p ⟨⟩
        exact hNext.2
  | crash => exact ⟨hInv, fun _ => hSafe world hInv hOp, by simp [Locked.step]⟩
  | outside event => exact event.elim

/-
  The world is at rest whenever the lock is free, in every run whose crashes are
  safe and whose calls are allowed.
-/
theorem run_atRest (hSafe : ∀ w, Inv w → Safe w → Rest w)
    (hCall : ∀ call w, Rest w → Allowed call w → (program call).Runs handle Inv (fun _ => Rest)
        (fun _ => Rest) w)
    {w : ω} (hInv : Inv w) (hRest : Rest w) {ops : List (LockedOp κ Unit Empty)}
    (hOps : Machine.Guarded (step (fun command _ => handle command) program (fun w _ => w))
      (Permitted Safe Allowed) ⟨w, none⟩ ops) :
    (Machine.run (step (fun command _ => handle command) program (fun w _ => w))
      ⟨w, none⟩ ops).AtRest handle Inv Rest :=
  Machine.run_invariant (AtRest.step hSafe hCall) ⟨hInv, fun _ => hRest,
    fun p hSome => by cases hSome⟩ hOps

/- The steps of a program are always permitted. -/
theorem guarded_advances
    (next : Locked interface ω ε α → LockedOp κ Unit Empty → Locked interface ω ε α)
    (s : Locked interface ω ε α) (count : Nat) :
    Machine.Guarded next (Permitted Safe Allowed) s (List.replicate count (.advance ())) := by
  induction count generalizing s with
  | zero => trivial
  | succ count ih => exact ⟨trivial, ih _⟩

end Locked

namespace Program

variable {interface : Interface} {ε α β ω χ : Type}

/-
  Each command leads from the world that it meets to a later one, and a program
  that succeeds ends in `good`. The worlds that the commands meet are later than
  those they left.
-/
def Ensures (handle : interface.Chosen χ ω)
    (later : ω → ω → Prop) (good : α → ω → Prop) (program : Program interface ε α) (w : ω) : Prop :=
  program.Keeps handle id later later good (fun _ _ => True) w

namespace Ensures

variable {handle : interface.Chosen χ ω}
variable {later : ω → ω → Prop} {w : ω}

variable {program : Program interface ε α}

theorem mono {good good' : α → ω → Prop} (hEnsures : program.Ensures handle later good w)
    (hGood : ∀ result w, good result w → good' result w) : program.Ensures handle later good' w :=
  Keeps.mono hGood (fun _ _ hBad => hBad) hEnsures

theorem bind {good : β → ω → Prop} {rest : α → Program interface ε β}
    (hEnsures : program.Ensures handle later (fun result => (rest result).Ensures handle later good)
      w) : (program >>= rest).Ensures handle later good w :=
  Keeps.bind hEnsures

theorem ofExcept {good : α → ω → Prop} {check : Except ε α}
    (hGood : ∀ result, check = .ok result → good result w) :
    (Program.ofExcept check).Ensures handle later good w :=
  Keeps.ofExcept hGood (fun _ _ => trivial)

theorem outcome {ε' : Type} {good : Except ε α → ω → Prop}
    (hEnsures : program.Ensures handle later (fun result => good (.ok result)) w)
    (hError : ∀ error w, good (.error error) w) :
    (program.outcome : Program interface ε' (Except ε α)).Ensures handle later good w :=
  Keeps.outcome (Keeps.mono (fun _ _ hGood => hGood) (fun error w _ => hError error w) hEnsures)

variable [IsPreorder ω later]

/- The program ends in a world later than the first. -/
theorem later_of {good : α → ω → Prop} (hEnsures : program.Ensures handle later good w) :
    program.Ensures handle later (fun result w' => later w w' ∧ good result w') w := by
  induction program generalizing w with
  | done result => exact ⟨refl_of later w, hEnsures⟩
  | fail error => trivial
  | perform command next ih =>
    intro choice w' hMeets
    obtain ⟨hLater, hNext⟩ := hEnsures choice w' hMeets
    refine ⟨hLater, (ih _ hNext).mono ?_⟩
    rintro result w'' ⟨hRest, hGood⟩
    exact ⟨trans_of later hMeets (trans_of later hLater hRest), hGood⟩

/-
  A loop whose rounds each establish something that lasts has in the end
  established it for every item.
-/
theorem foldlM_all {item : Type} {round : β → item → Program interface ε β}
    (established : item → ω → Prop)
    (hLasts : ∀ x w w', established x w → later w w' → established x w') (items : List item)
    (hRound : ∀ x ∈ items, ∀ acc w', later w w' →
      (round acc x).Ensures handle later (fun _ => established x) w')
    (acc : β) : (items.foldlM round acc).Ensures handle later
      (fun _ w' => ∀ x ∈ items, established x w') w := by
  induction items generalizing acc w with
  | nil => exact fun x hItem => by cases hItem
  | cons head items ih =>
    apply bind
    refine (later_of (hRound head List.mem_cons_self acc w (refl_of later w))).mono ?_
    rintro acc w' ⟨hLater, hHead⟩
    refine (later_of (ih (w := w') (fun x hItem acc w'' hNext =>
      hRound x (List.mem_cons_of_mem _ hItem) acc w'' (trans_of later hLater hNext)) acc)).mono ?_
    rintro _ w'' ⟨hRest, hTail⟩ x hItem
    rcases List.mem_cons.1 hItem with rfl | hItem
    · exact hLasts x w' w'' hHead hRest
    · exact hTail x hItem

end Ensures

end Program

/-
  A process: its call, the world in which it began, and what is left of its
  program. It may have crashed.
-/
structure Process (interface : Interface) (ω ε α κ : Type) where
  call : κ
  start : ω
  program : Option (Program interface ε α)

structure Pool (interface : Interface) (ω ε α κ : Type) where
  world : ω
  processes : List (Process interface ω ε α κ)

/- The processes are told apart by their place in the list. -/
inductive PoolOp (κ χ η : Type)
| spawn (call : κ)
| advance (index : Nat) (choice : χ)
| crash (index : Nat)
| outside (event : η)

namespace Pool

variable {interface : Interface} {ε α ω χ κ η : Type}

variable (handle : interface.Chosen χ ω)

def advance (s : Pool interface ω ε α κ) (index : Nat) (choice : χ) : Pool interface ω ε α κ :=
  match s.processes[index]? with
  | some ⟨call, start, some (.perform command next)⟩ =>
    { world := (handle command choice s.world).2
      processes := s.processes.set index ⟨call, start,
          some (next (handle command choice s.world).1)⟩ }
  | _ => s

def step (program : κ → Program interface ε α) (outside : ω → η → ω) (s : Pool interface ω ε α κ) :
    PoolOp κ χ η → Pool interface ω ε α κ
| .spawn call => { s with processes := s.processes ++ [⟨call, s.world, some (program call)⟩] }
| .advance index choice => s.advance handle index choice
| .crash index =>
  { s with processes := s.processes.modify index (fun process => { process with program := none }) }
| .outside event => { s with world := outside s.world event }

variable {handle : interface.Chosen χ ω}
variable {program : κ → Program interface ε α} {outside : ω → η → ω}
variable {later : ω → ω → Prop} {good : κ → ω → α → ω → Prop}

/-
  What is left of a process ensures its postcondition, from a world that is
  earlier than the present one.
-/
def Ensured (handle : interface.Chosen χ ω)
    (later : ω → ω → Prop) (good : κ → ω → α → ω → Prop) (s : Pool interface ω ε α κ) : Prop :=
  ∀ process ∈ s.processes, ∀ p ∈ process.program, ∃ w, later w s.world ∧
      p.Ensures handle later (good process.call process.start) w

variable [IsPreorder ω later]

variable {s : Pool interface ω ε α κ}

/- What happens in the world does not matter to a process. -/
theorem Ensured.grow (hEnsured : s.Ensured handle later good) {w : ω}
    (hLater : later s.world w) : Ensured handle later good { s with world := w } := by
  intro process hProcess p hProgram
  obtain ⟨w', hBefore, hEnsures⟩ := hEnsured process hProcess p hProgram
  exact ⟨w', trans_of later hBefore hLater, hEnsures⟩

theorem Ensured.advance (hEnsured : s.Ensured handle later good) (index : Nat) (choice : χ) :
    (s.advance handle index choice).Ensured handle later good ∧
      later s.world (s.advance handle index choice).world := by
  unfold Pool.advance
  split
  · rename_i call start command next hFind
    have hMember := List.mem_of_getElem? hFind
    obtain ⟨w, hBefore, hEnsures⟩ := hEnsured _ hMember _ rfl
    obtain ⟨hLater, hNext⟩ := hEnsures choice s.world hBefore
    refine ⟨?_, hLater⟩
    intro process hProcess p hProgram
    rcases List.mem_or_eq_of_mem_set hProcess with hOld | rfl
    · exact hEnsured.grow hLater process hOld p hProgram
    · cases hProgram
      exact ⟨_, refl_of later _, hNext⟩
  · exact ⟨hEnsured, refl_of later _⟩

theorem Ensured.step (hOutside : ∀ w event, later w (outside w event))
    (hCalls : ∀ call, (program call).Ensures handle later (good call s.world) s.world)
    (hEnsured : s.Ensured handle later good) (op : PoolOp κ χ η) :
    (s.step handle program outside op).Ensured handle later good ∧ later s.world
        (s.step handle program outside op).world := by
  cases op with
  | spawn call =>
    refine ⟨?_, refl_of later _⟩
    intro process hProcess p hProgram
    rcases List.mem_append.1 hProcess with hOld | hNew
    · exact hEnsured process hOld p hProgram
    · rw [List.mem_singleton] at hNew
      subst hNew
      cases hProgram
      exact ⟨_, refl_of later _, hCalls call⟩
  | advance index choice => exact hEnsured.advance index choice
  | crash index =>
    refine ⟨?_, refl_of later _⟩
    intro process hProcess p hProgram
    obtain ⟨place, hFind⟩ := List.mem_iff_getElem?.1 hProcess
    simp only [Pool.step, List.getElem?_modify] at hFind
    obtain ⟨old, hOld, hEq⟩ := Option.map_eq_some_iff.1 hFind
    split at hEq
    · subst hEq
      cases hProgram
    · subst hEq
      exact hEnsured _ (List.mem_of_getElem? hOld) p hProgram
  | outside event => exact ⟨hEnsured.grow (hOutside _ event), hOutside _ event⟩

/-
  In every run the world only gets later, and a process that has succeeded ended
  in its postcondition.
-/
theorem run_ensured (hOutside : ∀ w event, later w (outside w event)) {w : ω}
    (hCalls : ∀ call w', later w w' → (program call).Ensures handle later (good call w') w')
    (ops : List (PoolOp κ χ η)) :
    (Machine.run (step handle program outside) ⟨w, []⟩ ops).Ensured handle later good ∧
      later w (Machine.run (step handle program outside) ⟨w, []⟩ ops).world := by
  have hStep : ∀ s : Pool interface ω ε α κ, ∀ op, s.Ensured handle later good ∧ later w s.world →
        (s.step handle program outside op).Ensured handle later good ∧
          later w (s.step handle program outside op).world := by
    rintro s op ⟨hEnsured, hLater⟩
    have hNext := hEnsured.step hOutside (fun call => hCalls call s.world hLater) op
    exact ⟨hNext.1, trans_of later hLater hNext.2⟩
  exact Machine.run_invariant_of_step hStep
    ⟨fun process hProcess => (by cases hProcess), refl_of later w⟩ ops

end Pool
