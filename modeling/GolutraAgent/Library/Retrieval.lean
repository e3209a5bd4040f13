import Mathlib.Data.List.Dedup
import Mathlib.Data.List.Sort

/-
  This file develops retrieval: an inverted index, which finds the documents
  that have one of the given keys, and a ranked selection, which keeps the first
  of what was found.

  Key definitions include:
    * `InvertedIndex`
    * `InvertedIndex.ofDocuments`
-/

/- The places of the documents that have a key. -/
abbrev InvertedIndex (κ : Type) := List (κ × List Nat)

namespace InvertedIndex

variable {κ : Type} [DecidableEq κ]

def lookup (key : κ) : InvertedIndex κ → List Nat
| [] => []
| (other, places) :: index => if other = key then places else lookup key index

def insert (place : Nat) (key : κ) : InvertedIndex κ → InvertedIndex κ
| [] => [(key, [place])]
| (other, places) :: index =>
  if other = key then (other, places ++ [place]) :: index
  else (other, places) :: insert place key index

/- Insert all the keys of the document at a place. -/
def insertAll (place : Nat) (keys : List κ) (index : InvertedIndex κ) : InvertedIndex κ :=
  keys.foldl (fun index key => index.insert place key) index

def ofDocuments (documents : List (List κ)) : InvertedIndex κ :=
  documents.zipIdx.foldl (fun index document => index.insertAll document.2 document.1) []

/- The places that one of the keys leads to, each once. -/
def candidates (keys : List κ) (index : InvertedIndex κ) : List Nat :=
  (keys.flatMap (fun key => index.lookup key)).dedup

variable {index : InvertedIndex κ} {place place' : Nat}

theorem mem_lookup_insert {key key' : κ} : place' ∈ (index.insert place key).lookup key' ↔
      place' ∈ index.lookup key' ∨ place' = place ∧ key' = key := by
  induction index with
  | nil =>
    by_cases hKey : key = key'
    · simp [insert, lookup, hKey]
    · simp [insert, lookup, hKey, Ne.symm hKey]
  | cons entry index ih =>
    obtain ⟨other, places⟩ := entry
    by_cases hHere : other = key
    · by_cases hKey : key = key'
      · simp [insert, lookup, hHere, hKey]
      · simp [insert, lookup, hHere, hKey, Ne.symm hKey]
    · by_cases hOther : other = key'
      · have hKey : key' ≠ key := hOther ▸ hHere
        simp [insert, lookup, hOther, hKey]
      · simpa [insert, lookup, hHere, hOther] using ih

variable {keys : List κ}

theorem mem_lookup_insertAll {key' : κ} : place' ∈ (index.insertAll place keys).lookup key' ↔
      place' ∈ index.lookup key' ∨ place' = place ∧ key' ∈ keys := by
  unfold insertAll
  induction keys generalizing index with
  | nil => simp
  | cons key keys ih =>
    rw [List.foldl_cons, ih, mem_lookup_insert, List.mem_cons]
    tauto

theorem mem_lookup_foldl_insertAll {documents : List (List κ × Nat)} {place : Nat} {key : κ} :
    place ∈ (documents.foldl (fun index document =>
        index.insertAll document.2 document.1) index).lookup key ↔
      place ∈ index.lookup key ∨ ∃ document ∈ documents, place = document.2 ∧ key ∈ document.1 := by
  induction documents generalizing index with
  | nil => simp
  | cons document documents ih =>
    rw [List.foldl_cons, ih, mem_lookup_insertAll, List.exists_mem_cons_iff, or_assoc]

variable {documents : List (List κ)}

/- A key leads to the documents that have it. -/
theorem mem_lookup_ofDocuments {place : Nat} {key : κ} :
    place ∈ (ofDocuments documents).lookup key ↔
      ∃ document, documents[place]? = some document ∧ key ∈ document := by
  unfold ofDocuments
  rw [mem_lookup_foldl_insertAll]
  constructor
  · rintro (hNone | ⟨⟨document, _⟩, hMem, rfl, hKey⟩)
    · cases hNone
    · exact ⟨document, List.mem_zipIdx_iff_getElem?.1 hMem, hKey⟩
  · rintro ⟨document, hAt, hKey⟩
    exact .inr ⟨(document, place), List.mem_zipIdx_iff_getElem?.2 hAt, rfl, hKey⟩

theorem mem_candidates_ofDocuments {place : Nat} : place ∈ (ofDocuments documents).candidates keys ↔
      ∃ document, documents[place]? = some document ∧ ∃ key ∈ keys, key ∈ document := by
  unfold candidates
  rw [List.mem_dedup, List.mem_flatMap]
  simp only [mem_lookup_ofDocuments]
  constructor
  · rintro ⟨key, hKey, document, hAt, hIn⟩
    exact ⟨document, hAt, key, hKey, hIn⟩
  · rintro ⟨document, hAt, key, hKey, hIn⟩
    exact ⟨key, hKey, document, hAt, hIn⟩

theorem nodup_candidates (index : InvertedIndex κ) (keys : List κ) :
    (index.candidates keys).Nodup :=
  List.nodup_dedup _

end InvertedIndex

namespace Ranking

variable {α : Type}

/- The first items in an order, at most `limit` of them. -/
def select (before : α → α → Bool) (limit : Nat) (items : List α) : List α :=
  (items.insertionSort (fun a b => before a b)).take limit

/- An order in which no two items of a list tie. -/
structure Strict (before : α → α → Bool) (items : List α) : Prop where
  total : ∀ a b, before a b ∨ before b a
  trans : ∀ a b c, before a b → before b c → before a c
  antisymm : ∀ a ∈ items, ∀ b ∈ items, before a b → before b a → a = b

variable {before : α → α → Bool} {items items' : List α}

/- The selection depends on which items there are only. -/
theorem select_eq_of_perm (hStrict : Strict before items) (hPerm : items.Perm items')
    (limit : Nat) : select before limit items = select before limit items' := by
  let order : α → α → Prop := fun a b => before a b
  have _ : Std.Total order := ⟨hStrict.total⟩
  have _ : IsTrans α order := ⟨hStrict.trans⟩
  have hSame : items.insertionSort order = items'.insertionSort order := by
    refine List.Perm.eq_of_pairwise ?_ (List.pairwise_insertionSort order items)
      (List.pairwise_insertionSort order items') ?_
    · intro a b hA hB
      refine hStrict.antisymm a ?_ b ?_
      · exact (List.mem_insertionSort order).1 hA
      · exact hPerm.mem_iff.2 ((List.mem_insertionSort order).1 hB)
    · exact (List.perm_insertionSort order items).trans (hPerm.trans
          (List.perm_insertionSort order items').symm)
  exact congrArg (List.take limit) hSame

theorem select_eq_of_mem_iff (hStrict : Strict before items) (hNodup : items.Nodup)
    (hNodup' : items'.Nodup) (hMem : ∀ a, a ∈ items ↔ a ∈ items') (limit : Nat) :
    select before limit items = select before limit items' :=
  select_eq_of_perm hStrict ((List.perm_ext_iff_of_nodup hNodup hNodup').2 hMem) limit

end Ranking
