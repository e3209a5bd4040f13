import Mathlib.Data.List.Nodup

/-
  This file treats a list as a table in order: every element has a key, and
  elements are found, changed and removed by key. Code that scans a sequence for
  the first element with a key and code that retains the elements with other
  keys both have a meaning here; on lists with distinct keys both are an
  `editAt`, and edits at different keys commute.

  Key definitions include:
    * `KeyedList.modifyFirst`
    * `KeyedList.retainOther`
-/

namespace KeyedList

variable {α κ : Type*} [DecidableEq κ]

/- Replace the first element with key `k` by its image. -/
def modifyFirst (key : α → κ) (k : κ) (f : α → α) : List α → List α
| [] => []
| a :: as =>
  if key a = k then f a :: as
  else a :: modifyFirst key k f as

variable (key : α → κ) (k : κ)

/- Keep the elements whose key is not `k`. -/
def retainOther (l : List α) : List α := l.filter (fun a => key a ≠ k)

/-
  Change or remove every element with key `k`, and leave the others in place.
-/
def editAt (f : α → Option α) (l : List α) : List α :=
  l.filterMap (fun a => if key a = k then f a else some a)

/- The elements with key `k`, in order. -/
def ofKey (l : List α) : List α := l.filter (fun a => key a = k)

/- A change of the elements with key `k` keeps their key. -/
def KeepsKey (f : α → Option α) : Prop := ∀ a b, key a = k → f a = some b → key b = k

/- No two elements have the same key. -/
def DistinctKeys (key : α → κ) (l : List α) : Prop := (l.map key).Nodup

variable {key : α → κ} {k k' : κ}

@[simp] theorem ofKey_nil : ofKey key k [] = [] := rfl

@[simp] theorem ofKey_append (l l' : List α) :
    ofKey key k (l ++ l') = ofKey key k l ++ ofKey key k l' := by
  simp [ofKey]

variable {a : α} {l : List α}

@[simp] theorem ofKey_cons_self (hKey : key a = k) : ofKey key k (a :: l) = a :: ofKey key k l := by
  simp [ofKey, hKey]

@[simp] theorem ofKey_cons_other (hKey : key a ≠ k) : ofKey key k (a :: l) = ofKey key k l := by
  simp [ofKey, hKey]

@[simp] theorem mem_ofKey {l : List α} : a ∈ ofKey key k l ↔ a ∈ l ∧ key a = k := by
  simp [ofKey]

theorem ofKey_eq_nil {l : List α} : ofKey key k l = [] ↔ ∀ a ∈ l, key a ≠ k := by
  simp [ofKey]

/- An element with a new key may be added at the end. -/
omit [DecidableEq κ] in
theorem DistinctKeys.concat (hDistinct : DistinctKeys key l)
    (hFresh : ∀ b ∈ l, key b ≠ key a) : DistinctKeys key (l ++ [a]) := by
  unfold DistinctKeys
  rw [List.map_append, List.nodup_append]
  refine ⟨hDistinct, List.nodup_singleton _, ?_⟩
  intro old hOld last hLast hSame
  obtain ⟨b, hMem, rfl⟩ := List.mem_map.1 hOld
  exact hFresh b hMem (hSame.trans (List.mem_singleton.1 hLast))

/- The first element with a key heads the elements of it. -/
theorem find?_eq_head?_ofKey (l : List α) :
    l.find? (fun a => key a = k) = (ofKey key k l).head? := by
  simp [ofKey]

/- If every key has at most one element, the keys are distinct. -/
theorem distinctKeys_of_ofKey_length
    (hOne : ∀ k, (ofKey key k l).length ≤ 1) : DistinctKeys key l := by
  induction l with
  | nil => simp [DistinctKeys]
  | cons a l ih =>
    have hTail : DistinctKeys key l := by
      apply ih
      intro k
      have hHere := hOne k
      by_cases hKey : key a = k
      · rw [ofKey_cons_self hKey] at hHere
        simp only [List.length_cons] at hHere
        omega
      · rwa [ofKey_cons_other hKey] at hHere
    have hHead := hOne (key a)
    rw [ofKey_cons_self rfl] at hHead
    have hNone : ofKey key (key a) l = [] := by
      apply List.eq_nil_of_length_eq_zero
      simp only [List.length_cons] at hHead
      omega
    rw [ofKey_eq_nil] at hNone
    refine List.nodup_cons.2 ⟨?_, hTail⟩
    intro hMem
    rcases List.mem_map.1 hMem with ⟨b, hb, hEq⟩
    exact hNone b hb hEq

variable (f : α → Option α)

@[simp] theorem editAt_nil : editAt key k f [] = [] := rfl

@[simp] theorem editAt_append (l l' : List α) :
    editAt key k f (l ++ l') = editAt key k f l ++ editAt key k f l' := by
  simp [editAt]

theorem editAt_cons_self (l : List α) (hKey : key a = k) :
    editAt key k f (a :: l) = (f a).toList ++ editAt key k f l := by
  cases hf : f a with
  | none => simp [editAt, hKey, hf]
  | some b => simp [editAt, hKey, hf]

theorem editAt_cons_other (l : List α) (hKey : key a ≠ k) :
    editAt key k f (a :: l) = a :: editAt key k f l := by
  simp [editAt, hKey]

/- An edit at an absent key does nothing. -/
theorem editAt_absent (hAbsent : ∀ a ∈ l, key a ≠ k) : editAt key k f l = l := by
  induction l with
  | nil => rfl
  | cons a l ih =>
    have hHead := hAbsent a (by simp)
    have hTail := ih (fun b hb => hAbsent b (by simp [hb]))
    rw [editAt_cons_other f l hHead, hTail]

/- An edit that returns what it finds does nothing. -/
theorem editAt_eq_self {f : α → Option α}
    (hSame : ∀ a ∈ l, key a = k → f a = some a) : editAt key k f l = l := by
  induction l with
  | nil => rfl
  | cons a l ih =>
    have hTail := ih (fun b hb => hSame b (by simp [hb]))
    by_cases hKey : key a = k
    · rw [editAt_cons_self f l hKey, hSame a (by simp) hKey, hTail]
      rfl
    · rw [editAt_cons_other f l hKey, hTail]

/- Two edits at one key are one edit. -/
theorem editAt_editAt {f : α → Option α} (hf : KeepsKey key k f) (g : α → Option α) (l : List α) :
    editAt key k g (editAt key k f l) = editAt key k (fun a => (f a).bind g) l := by
  simp only [editAt, List.filterMap_filterMap]
  congr 1
  funext a
  by_cases hKey : key a = k
  · cases hfa : f a with
    | none => simp [hKey]
    | some b => simp [hKey, hf a b hKey hfa]
  · simp [hKey]

/- Retaining the other keys is the removing edit. -/
theorem retainOther_eq_editAt (l : List α) :
    retainOther key k l = editAt key k (fun _ => none) l := by
  induction l with
  | nil => rfl
  | cons a l ih =>
    by_cases hKey : key a = k
    · rw [editAt_cons_self _ l hKey, ← ih]
      simp [retainOther, hKey]
    · rw [editAt_cons_other _ l hKey, ← ih]
      simp [retainOther, hKey]

/-
  On distinct keys, changing the first match is an edit, since there is no
  second match.
-/
theorem modifyFirst_eq_editAt (f : α → α) (hDistinct : DistinctKeys key l) :
    modifyFirst key k f l = editAt key k (fun a => some (f a)) l := by
  induction l with
  | nil => rfl
  | cons a l ih =>
    have hNodup := List.nodup_cons.1 hDistinct
    by_cases hKey : key a = k
    · have hAbsent : ∀ b ∈ l, key b ≠ k := by
        rintro b hb rfl
        exact hNodup.1 (List.mem_map.2 ⟨b, hb, hKey.symm⟩)
      rw [editAt_cons_self _ l hKey, editAt_absent _ hAbsent]
      simp [modifyFirst, hKey]
    · rw [editAt_cons_other _ l hKey, ← ih hNodup.2]
      simp [modifyFirst, hKey]

/-
  Removing one position is the removing edit at its key when the keys are
  distinct.
-/
theorem remove_middle_eq_editAt {before after : List α}
    (hDistinct : DistinctKeys key (before ++ a :: after)) :
    before ++ after = editAt key (key a) (fun _ => none) (before ++ a :: after) := by
  have hNodup : (before.map key ++ key a :: after.map key).Nodup := by
    simpa [DistinctKeys] using hDistinct
  have hOthers := (List.nodup_middle.1 hNodup)
  rw [List.nodup_cons] at hOthers
  have hAbsent : ∀ b ∈ before ++ after, key b ≠ key a := by
    intro b hb hEq
    apply hOthers.1
    rw [← List.map_append, ← hEq]
    exact List.mem_map_of_mem hb
  rw [editAt_append, editAt_cons_self _ _ rfl,
    editAt_absent _ (fun b hb => hAbsent b (by simp [hb])),
    editAt_absent _ (fun b hb => hAbsent b (by simp [hb]))]
  simp

/-
  Edits at different keys commute when each keeps the key of what it changes.
-/
theorem editAt_comm {f g : α → Option α} (hKeys : k ≠ k')
    (hf : KeepsKey key k f) (hg : KeepsKey key k' g) (l : List α) :
    editAt key k f (editAt key k' g l) = editAt key k' g (editAt key k f l) := by
  simp only [editAt, List.filterMap_filterMap]
  congr 1
  funext a
  by_cases hHere : key a = k
  · cases hfa : f a with
    | none => simp [hHere, hKeys, hfa]
    | some b =>
      have hb : key b ≠ k' := (hf a b hHere hfa).symm ▸ hKeys
      simp [hHere, hKeys, hfa, hb]
  · by_cases hThere : key a = k'
    · cases hga : g a with
      | none => simp [hThere, hKeys.symm, hga]
      | some b =>
        have hb : key b ≠ k := (hg a b hThere hga).symm ▸ hKeys.symm
        simp [hThere, hKeys.symm, hga, hb]
    · simp [hHere, hThere]

/- An edit leaves the elements of every other key alone. -/
theorem ofKey_editAt_other {f : α → Option α} (hKeys : k' ≠ k)
    (hf : KeepsKey key k f) (l : List α) : ofKey key k' (editAt key k f l) = ofKey key k' l := by
  induction l with
  | nil => rfl
  | cons a l ih =>
    by_cases hKey : key a = k
    · have hOther : key a ≠ k' := fun h => hKeys (h ▸ hKey)
      rw [editAt_cons_self f l hKey, ofKey_append, ih, ofKey_cons_other hOther]
      cases hfa : f a with
      | none => rfl
      | some b =>
        have hb : key b ≠ k' := (hf a b hKey hfa).symm ▸ hKeys.symm
        simp [hb]
    · rw [editAt_cons_other f l hKey]
      by_cases hHere : key a = k'
      · rw [ofKey_cons_self hHere, ofKey_cons_self hHere, ih]
      · rw [ofKey_cons_other hHere, ofKey_cons_other hHere, ih]

/- An edit acts on the elements of its own key alone. -/
theorem ofKey_editAt_self {f : α → Option α} (hf : KeepsKey key k f)
    (l : List α) : ofKey key k (editAt key k f l) = (ofKey key k l).filterMap f := by
  induction l with
  | nil => rfl
  | cons a l ih =>
    by_cases hKey : key a = k
    · rw [editAt_cons_self f l hKey, ofKey_append, ih, ofKey_cons_self hKey]
      cases hfa : f a with
      | none => simp [hfa]
      | some b =>
        have hb : key b = k := hf a b hKey hfa
        simp [hfa, hb]
    · rw [editAt_cons_other f l hKey, ofKey_cons_other hKey, ofKey_cons_other hKey, ih]

/- Retaining the other keys leaves nothing of this key. -/
@[simp] theorem ofKey_retainOther_self (l : List α) : ofKey key k (retainOther key k l) = [] := by
  rw [ofKey_eq_nil]
  intro a ha
  simpa using (List.mem_filter.1 ha).2

@[simp] theorem ofKey_retainOther_other (hKeys : k' ≠ k) (l : List α) :
    ofKey key k' (retainOther key k l) = ofKey key k' l := by
  rw [retainOther_eq_editAt]
  apply ofKey_editAt_other hKeys
  rintro a b - ⟨⟩

variable {f : α → α}

/- A change that keeps the key keeps all the keys. -/
theorem keys_modifyFirst (hKeeps : ∀ a, key a = k → key (f a) = k)
    (l : List α) : (modifyFirst key k f l).map key = l.map key := by
  induction l with
  | nil => rfl
  | cons a l ih =>
    unfold modifyFirst
    by_cases hKey : key a = k
    · simp [hKey, hKeeps a hKey]
    · simp [hKey, ih]

theorem map_modifyFirst {β : Type*} {g : α → β}
    (hKeeps : ∀ a, g (f a) = g a) (l : List α) : (modifyFirst key k f l).map g = l.map g := by
  induction l with
  | nil => rfl
  | cons a l ih =>
    unfold modifyFirst
    split
    · simp [hKeeps]
    · simp [ih]

/- Changes that look the same give lists that look so. -/
theorem map_modifyFirst_congr {β : Type*} {f f' : α → α} {g : α → β}
    (hSame : ∀ a, g (f a) = g (f' a)) (l : List α) :
    (modifyFirst key k f l).map g = (modifyFirst key k f' l).map g := by
  induction l with
  | nil => rfl
  | cons a l ih =>
    unfold modifyFirst
    split
    · simp [hSame]
    · simp [ih]

/- An element is found changed if its key is the one. -/
theorem find?_modifyFirst (hKeeps : ∀ a, key (f a) = key a) (l : List α) :
    (modifyFirst key k f l).find? (fun a => key a = k') =
      if k' = k then (l.find? (fun a => key a = k')).map f
      else l.find? (fun a => key a = k') := by
  induction l with
  | nil => simp [modifyFirst]
  | cons a l ih =>
    unfold modifyFirst
    by_cases hKey : key a = k
    · by_cases hSame : k' = k
      · simp [hKey, hKeeps, hSame]
      · simp [hKey, hKeeps, hSame, Ne.symm hSame]
    · rw [if_neg hKey]
      by_cases hHere : key a = k'
      · have hOther : k' ≠ k := fun h => hKey (hHere.trans h)
        simp [hHere, hOther]
      · simp [hHere, ih]

/- An element is an old one, or a changed one. -/
theorem mem_modifyFirst {b : α} (hMem : b ∈ modifyFirst key k f l) : b ∈ l ∨ ∃ a ∈ l, b = f a := by
  induction l with
  | nil => cases hMem
  | cons a l ih =>
    unfold modifyFirst at hMem
    split at hMem
    · rcases List.mem_cons.1 hMem with rfl | hTail
      · exact .inr ⟨a, List.mem_cons_self, rfl⟩
      · exact .inl (List.mem_cons_of_mem _ hTail)
    · rcases List.mem_cons.1 hMem with rfl | hTail
      · exact .inl List.mem_cons_self
      · rcases ih hTail with hOld | ⟨c, hIn, rfl⟩
        · exact .inl (List.mem_cons_of_mem _ hOld)
        · exact .inr ⟨c, List.mem_cons_of_mem _ hIn, rfl⟩

/- The one that is changed is the one that is found. -/
theorem mem_modifyFirst_of_find? {a b : α} (hFind : l.find? (fun a => key a = k) = some a)
    (hMem : b ∈ modifyFirst key k f l) : b ∈ l ∨ b = f a := by
  induction l with
  | nil => cases hFind
  | cons c l ih =>
    unfold modifyFirst at hMem
    by_cases hKey : key c = k
    · rw [List.find?_cons_of_pos (by simpa using hKey)] at hFind
      cases hFind
      rw [if_pos hKey] at hMem
      rcases List.mem_cons.1 hMem with rfl | hTail
      · exact .inr rfl
      · exact .inl (List.mem_cons_of_mem _ hTail)
    · rw [List.find?_cons_of_neg (by simpa using hKey)] at hFind
      rw [if_neg hKey] at hMem
      rcases List.mem_cons.1 hMem with rfl | hTail
      · exact .inl List.mem_cons_self
      · exact (ih hFind hTail).imp (List.mem_cons_of_mem _) id

/-
  On distinct keys, a changed list has the elements of other keys and the
  changed one.
-/
theorem mem_modifyFirst_iff {f : α → α} {l : List α} {a b : α}
    (hDistinct : DistinctKeys key l) (hMem : a ∈ l) (hKey : key a = k) :
    b ∈ modifyFirst key k f l ↔ (b ∈ l ∧ key b ≠ k) ∨ b = f a := by
  induction l with
  | nil => cases hMem
  | cons c l ih =>
    have hNodup := List.nodup_cons.1 hDistinct
    unfold modifyFirst
    by_cases hHead : key c = k
    · have hAbsent : ∀ d ∈ l, key d ≠ k := by
        rintro d hd rfl
        exact hNodup.1 (List.mem_map.2 ⟨d, hd, hHead.symm⟩)
      have hSame : a = c := by
        rcases List.mem_cons.1 hMem with rfl | hTail
        · rfl
        · exact absurd hKey (hAbsent a hTail)
      subst hSame
      rw [if_pos hHead, List.mem_cons, List.mem_cons]
      constructor
      · rintro (hNew | hTail)
        · exact .inr hNew
        · exact .inl ⟨.inr hTail, hAbsent b hTail⟩
      · rintro (⟨rfl | hTail, hOther⟩ | hNew)
        · exact absurd hHead hOther
        · exact .inr hTail
        · exact .inl hNew
    · have hTail : a ∈ l := by
        rcases List.mem_cons.1 hMem with rfl | hTail
        · exact absurd hKey hHead
        · exact hTail
      rw [if_neg hHead, List.mem_cons, List.mem_cons, ih hNodup.2 hTail]
      constructor
      · rintro (rfl | ⟨hIn, hOther⟩ | hNew)
        · exact .inl ⟨.inl rfl, hHead⟩
        · exact .inl ⟨.inr hIn, hOther⟩
        · exact .inr hNew
      · rintro (⟨rfl | hIn, hOther⟩ | hNew)
        · exact .inl rfl
        · exact .inr (.inl ⟨hIn, hOther⟩)
        · exact .inr (.inr hNew)

variable {υ : Type*} {found : α → Option υ}

/-
  Changes that each element asks for, made one after the other by key, change
  each element on its own.
-/
theorem foldl_modifyFirst {target : υ → κ} {change : υ → α → α}
    (hKeeps : ∀ u a, key (change u a) = key a)
    (hTarget : ∀ a u, found a = some u → target u = key a) (hDistinct : DistinctKeys key l) :
    (l.filterMap found).foldl (fun acc u => modifyFirst key (target u) (change u) acc) l =
      l.map (fun a => (found a).elim a (change · a)) := by
  -- The elements before those still to come are done.
  have hDone : ∀ done rest : List α, DistinctKeys key rest →
      (∀ a ∈ done, ∀ b ∈ rest, key a ≠ key b) → (rest.filterMap found).foldl
          (fun acc u => modifyFirst key (target u) (change u) acc) (done ++ rest) =
          done ++ rest.map (fun a => (found a).elim a (change · a)) := by
    intro done rest
    induction rest generalizing done with
    | nil => simp
    | cons a rest ih =>
      intro hRest hApart
      have hNodup := List.nodup_cons.1 hRest
      have hHere : ∀ b, key b = key a → ∀ c ∈ done ++ [b], ∀ d ∈ rest, key c ≠ key d := by
        intro b hKey c hc d hd hSame
        rcases List.mem_append.1 hc with hOld | hNew
        · exact hApart c hOld d (List.mem_cons_of_mem _ hd) hSame
        · rw [List.mem_singleton] at hNew
          subst hNew
          exact hNodup.1 (List.mem_map.2 ⟨d, hd, hSame.symm.trans hKey⟩)
      cases hFound : found a with
      | none =>
        have hNext := ih (done ++ [a]) hNodup.2 (hHere a rfl)
        simpa [hFound] using hNext
      | some u =>
        have hNext := ih (done ++ [change u a]) hNodup.2 (hHere _ (hKeeps u a))
        have hStep : modifyFirst key (target u) (change u) (done ++ a :: rest) =
            done ++ change u a :: rest := by
          rw [hTarget a u hFound]
          clear ih hNext hHere
          induction done with
          | nil => simp [modifyFirst]
          | cons b done ih =>
            have hOther : key b ≠ key a := hApart b List.mem_cons_self a List.mem_cons_self
            simp only [List.cons_append, modifyFirst, hOther, if_false]
            rw [ih (fun c hc => hApart c (List.mem_cons_of_mem _ hc))]
        simpa [hFound, hStep] using hNext
  exact hDone [] l hDistinct (by simp)

/- Only one element asks for a change. -/
theorem filterMap_eq_singleton {u : υ} (hNodup : l.Nodup) (hMem : a ∈ l) (hFound : found a = some u)
    (hOthers : ∀ b ∈ l, b ≠ a → found b = none) : l.filterMap found = [u] := by
  obtain ⟨before, after, rfl⟩ := List.append_of_mem hMem
  have hApart := List.nodup_middle.1 hNodup
  rw [List.nodup_cons] at hApart
  have hNone : ∀ b ∈ before ++ after, found b = none := by
    intro b hb
    refine hOthers b ?_ (fun hSame => hApart.1 (hSame ▸ hb))
    rcases List.mem_append.1 hb with hb | hb
    · exact List.mem_append_left _ hb
    · exact List.mem_append_right _ (List.mem_cons_of_mem _ hb)
  have hEmpty := List.filterMap_eq_nil_iff.2 hNone
  rw [List.filterMap_append, List.append_eq_nil_iff] at hEmpty
  simp [hFound, hEmpty.1, hEmpty.2]

/- An edit never lengthens the list. -/
theorem length_editAt_le (f : α → Option α) (l : List α) : (editAt key k f l).length ≤ l.length :=
  List.length_filterMap_le _ _

end KeyedList
