import GolutraAgent.Library.Program

/-
  This file develops programs that run beside each other without a lock, in runs
  that allow some of their commands only in some of the worlds. A command is
  issued with what its process has found out before, and what it found out may
  have changed since. If a command that is allowed leads to a later world
  whenever it is issued, then the world only gets later, and all commands are
  issued so.

  Key definitions include:
    * `IsGrowth`
    * `Program.Complies`
-/

/-
  A preorder on those of the worlds that it relates at all, which are the ones
  that satisfy an invariant.
-/
class IsGrowth {ω : Type}
    (later : ω → ω → Prop) : Prop extends IsTrans ω later where
  here : ∀ v w, later v w → later w w

namespace Program

variable {interface : Interface} {ε α β ω χ : Type}

/-
  Every command of the program meets a world that is later than the one that the
  command before it left. It is issued there, and if it is allowed there it
  leads to a later one.
-/
def Complies (handle : interface.Chosen χ ω)
    (later : ω → ω → Prop) (allowed issued : interface.Command → ω → Prop) (good : α → ω → Prop) :
    Program interface ε α → ω → Prop
| .done result, w => good result w
| .fail _, _ => True
| .perform command next, w =>
  ∀ choice w', later w w' → issued command w' ∧ (allowed command w' →
        later w' (handle command choice w').2 ∧ (next (handle command choice w').1).Complies
            handle later allowed issued good (handle command choice w').2)

namespace Complies

variable {handle : interface.Chosen χ ω}
variable {later : ω → ω → Prop} {allowed issued : interface.Command → ω → Prop} {w : ω}

variable {program : Program interface ε α}

theorem mono {good good' : α → ω → Prop}
    (hComplies : program.Complies handle later allowed issued good w)
    (hGood : ∀ result w, good result w → good' result w) :
    program.Complies handle later allowed issued good' w := by
  induction program generalizing w with
  | done result => exact hGood result w hComplies
  | fail error => trivial
  | perform command next ih =>
    intro choice w' hLater
    obtain ⟨hIssued, hNext⟩ := hComplies choice w' hLater
    refine ⟨hIssued, fun hAllowed => ?_⟩
    obtain ⟨hGrows, hRest⟩ := hNext hAllowed
    exact ⟨hGrows, ih _ hRest⟩

variable {good : β → ω → Prop} {rest : α → Program interface ε β}

theorem bind (hComplies : program.Complies handle later allowed issued
      (fun result => (rest result).Complies handle later allowed issued good) w) :
    (program >>= rest).Complies handle later allowed issued good w := by
  induction program generalizing w with
  | done result => exact hComplies
  | fail error => trivial
  | perform command next ih =>
    intro choice w' hLater
    obtain ⟨hIssued, hNext⟩ := hComplies choice w' hLater
    refine ⟨hIssued, fun hAllowed => ?_⟩
    obtain ⟨hGrows, hRest⟩ := hNext hAllowed
    exact ⟨hGrows, ih _ hRest⟩

/- A check, and a program that relies on it. -/
theorem ofExcept {check : Except ε α} (hRest : ∀ result, check = .ok result →
      (rest result).Complies handle later allowed issued good w) :
    (Program.ofExcept check >>= rest).Complies handle later allowed issued good w := by
  cases check with
  | ok result => exact hRest result rfl
  | error error => trivial

/- A command, and the rest after its answer. -/
theorem call {good : β → ω → Prop} {command : interface.Command} {rest : interface.Answer command →
      Program interface ε β}
    (hIssued : ∀ w', later w w' → issued command w')
    (hNext : ∀ choice w', later w w' → allowed command w' →
      later w' (handle command choice w').2 ∧ (rest (handle command choice w').1).Complies handle
          later allowed issued good (handle command choice w').2) :
    (Program.call command >>= rest).Complies handle later allowed issued good w :=
  fun choice w' hLater => ⟨hIssued w' hLater, hNext choice w' hLater⟩

/- A loop keeps what each of its rounds keeps. -/
theorem foldlM {item : Type} {loop : β → ω → Prop}
    {round : β → item → Program interface ε β} {items : List item}
    (hRound : ∀ x ∈ items, ∀ acc w, loop acc w →
      (round acc x).Complies handle later allowed issued loop w)
    {acc : β} (hLoop : loop acc w) :
    (items.foldlM round acc).Complies handle later allowed issued loop w := by
  induction items generalizing acc w with
  | nil => exact hLoop
  | cons x items ih =>
    apply bind
    refine (hRound x List.mem_cons_self acc w hLoop).mono ?_
    intro acc w hAcc
    exact ih (fun y hItem => hRound y (List.mem_cons_of_mem _ hItem)) hAcc

end Complies

end Program

namespace Pool

/- A process that has the turn, and its next command. -/
structure Turn (interface : Interface) (ω κ : Type) where
  call : κ
  start : ω
  command : interface.Command

section

variable {interface : Interface} {ε α ω χ κ η : Type}

def turn (s : Pool interface ω ε α κ) (index : Nat) : Option (Turn interface ω κ) :=
  match s.processes[index]? with
  | some ⟨call, start, some (.perform command _)⟩ => some ⟨call, start, command⟩
  | _ => none

/- A process without a next command does not advance. -/
theorem advance_cases
    (handle : interface.Chosen χ ω) (s : Pool interface ω ε α κ) (index : Nat) (choice : χ) :
    (s.turn index = none ∧ s.advance handle index choice = s) ∨
      ∃ call start command next, s.processes[index]? =
            some ⟨call, start, some (.perform command next)⟩ ∧
          s.turn index = some ⟨call, start, command⟩ ∧ s.advance handle index choice =
            { world := (handle command choice s.world).2
              processes := s.processes.set index ⟨call, start, some
                  (next (handle command choice s.world).1)⟩ } := by
  unfold turn advance
  rcases hFind : s.processes[index]? with _ | ⟨call, start, _ | program⟩
  · exact .inl ⟨rfl, rfl⟩
  · exact .inl ⟨rfl, rfl⟩
  · cases program with
    | done result => exact .inl ⟨rfl, rfl⟩
    | fail error => exact .inl ⟨rfl, rfl⟩
    | perform command next => exact .inr ⟨call, start, command, next, rfl, rfl, rfl⟩

/-
  The command that is performed next, if any, is allowed in the world that it
  meets.
-/
def Permits (allowed : Turn interface ω κ → ω → Prop) (s : Pool interface ω ε α κ) :
    PoolOp κ χ η → Prop
| .advance index _ => ∀ turn ∈ s.turn index, allowed turn s.world
| _ => True

instance decidablePermits (allowed : Turn interface ω κ → ω → Prop)
    [∀ turn w, Decidable (allowed turn w)] (s : Pool interface ω ε α κ) :
    ∀ op : PoolOp κ χ η, Decidable (s.Permits allowed op)
| .advance index _ => inferInstanceAs (Decidable (∀ turn ∈ s.turn index, allowed turn s.world))
| .spawn _ | .crash _ | .outside _ => .isTrue trivial

end

section

variable {interface : Interface} {ε α ω χ κ η : Type}
variable {handle : interface.Chosen χ ω}
variable {program : κ → Program interface ε α} {outside : ω → η → ω} {later : ω → ω → Prop}
variable {allowed issued : Turn interface ω κ → ω → Prop}

/-
  What is left of a process complies, from a world that is earlier than the
  present one.
-/
def Complied (handle : interface.Chosen χ ω) (later : ω → ω → Prop)
    (allowed issued : Turn interface ω κ → ω → Prop) (s : Pool interface ω ε α κ) : Prop :=
  ∀ process ∈ s.processes, ∀ p ∈ process.program,
    ∃ w, later w s.world ∧ p.Complies handle later (fun command => allowed
          ⟨process.call, process.start, command⟩)
        (fun command => issued ⟨process.call, process.start, command⟩) (fun _ _ => True) w

variable [IsGrowth later]

variable {s : Pool interface ω ε α κ}

theorem Complied.grow (hComplied : s.Complied handle later allowed issued)
    {w : ω} (hLater : later s.world w) :
    Complied handle later allowed issued { s with world := w } := by
  intro process hProcess p hProgram
  obtain ⟨w', hBefore, hComplies⟩ := hComplied process hProcess p hProgram
  exact ⟨w', trans_of later hBefore hLater, hComplies⟩

theorem Complied.advance (hHere : later s.world s.world)
    (hComplied : s.Complied handle later allowed issued) (index : Nat)
    (choice : χ) (hAllowed : ∀ turn ∈ s.turn index, allowed turn s.world) :
    (∀ turn ∈ s.turn index, issued turn s.world) ∧
      (s.advance handle index choice).Complied handle later allowed issued ∧
      later s.world (s.advance handle index choice).world := by
  rcases s.advance_cases handle index choice with ⟨hNone, hSame⟩ |
    ⟨call, start, command, next, hFind, hTurn, hNext⟩
  · rw [hNone, hSame]
    refine ⟨?_, hComplied, hHere⟩
    rintro _ ⟨⟩
  · rw [hTurn] at hAllowed ⊢
    rw [hNext]
    obtain ⟨w, hBefore, hComplies⟩ := hComplied _ (List.mem_of_getElem? hFind) _ rfl
    obtain ⟨hIssued, hGoesOn⟩ := hComplies choice s.world hBefore
    obtain ⟨hLater, hRest⟩ := hGoesOn (hAllowed _ rfl)
    refine ⟨?_, ?_, hLater⟩
    · rintro _ ⟨⟩
      exact hIssued
    · intro process hProcess p hProgram
      rcases List.mem_or_eq_of_mem_set hProcess with hOld | rfl
      · exact hComplied.grow hLater process hOld p hProgram
      · cases hProgram
        exact ⟨_, IsGrowth.here _ _ hLater, hRest⟩

/- A step that is permitted is issued, if it is a command. -/
theorem Complied.step (hOutside : ∀ w event, later w w → later w (outside w event))
    (hHere : later s.world s.world) (hCalls : ∀ call, (program call).Complies handle later
        (fun command => allowed ⟨call, s.world, command⟩)
        (fun command => issued ⟨call, s.world, command⟩) (fun _ _ => True) s.world)
    (hComplied : s.Complied handle later allowed issued) (op : PoolOp κ χ η)
    (hPermits : s.Permits allowed op) :
    s.Permits issued op ∧ (s.step handle program outside op).Complied handle later allowed issued ∧
      later s.world (s.step handle program outside op).world := by
  cases op with
  | spawn call =>
    refine ⟨trivial, ?_, hHere⟩
    intro process hProcess p hProgram
    rcases List.mem_append.1 hProcess with hOld | hNew
    · exact hComplied process hOld p hProgram
    · rw [List.mem_singleton] at hNew
      subst hNew
      cases hProgram
      exact ⟨_, hHere, hCalls call⟩
  | advance index choice => exact hComplied.advance hHere index choice hPermits
  | crash index =>
    refine ⟨trivial, ?_, hHere⟩
    intro process hProcess p hProgram
    obtain ⟨place, hFind⟩ := List.mem_iff_getElem?.1 hProcess
    simp only [Pool.step, List.getElem?_modify] at hFind
    obtain ⟨old, hOld, hEq⟩ := Option.map_eq_some_iff.1 hFind
    split at hEq
    · subst hEq
      cases hProgram
    · subst hEq
      exact hComplied _ (List.mem_of_getElem? hOld) p hProgram
  | outside event =>
    exact ⟨trivial, hComplied.grow (hOutside _ event hHere), hOutside _ event hHere⟩

/-
  In every run that permits its steps the world only gets later, and every
  command is issued as the programs say.
-/
theorem run_issued (hOutside : ∀ w event, later w w → later w (outside w event)) {w : ω}
    (hRoot : later w w) (hCalls : ∀ call w', later w w' → (program call).Complies handle later
        (fun command => allowed ⟨call, w', command⟩) (fun command => issued ⟨call, w', command⟩)
        (fun _ _ => True) w')
    {ops : List (PoolOp κ χ η)}
    (hPermits : Machine.Guarded (step handle program outside) (Permits allowed) ⟨w, []⟩ ops) :
    Machine.Guarded (step handle program outside)
        (fun s op => later w s.world ∧ s.Permits issued op) ⟨w, []⟩ ops ∧
      later w (Machine.run (step handle program outside) ⟨w, []⟩ ops).world := by
  have hStep : ∀ s : Pool interface ω ε α κ, ∀ op,
      s.Complied handle later allowed issued ∧ later w s.world →
        s.Permits allowed op → (later w s.world ∧ s.Permits issued op) ∧
          (s.step handle program outside op).Complied handle later allowed issued ∧
          later w (s.step handle program outside op).world := by
    rintro s op ⟨hComplied, hLater⟩ hPermitted
    obtain ⟨hIssued, hNext, hGrows⟩ := hComplied.step hOutside
      (IsGrowth.here _ _ hLater) (fun call => hCalls call s.world hLater) op hPermitted
    exact ⟨⟨hLater, hIssued⟩, hNext, trans_of later hLater hGrows⟩
  have hInit : (Pool.mk w [] :
      Pool interface ω ε α κ).Complied handle later allowed issued ∧ later w w :=
    ⟨fun process hProcess => (by cases hProcess), hRoot⟩
  exact ⟨Machine.guarded_of_invariant hStep hInit hPermits,
    (Machine.run_invariant (fun s op hInv hGood => (hStep s op hInv hGood).2) hInit hPermits).2⟩

end

end Pool
