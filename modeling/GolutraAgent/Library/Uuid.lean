import Mathlib.Tactic.NormNum
import GolutraAgent.Library.Json

/-
  This file defines UUIDs, their text form and their JSON form. A UUID is
  printed as lower-case hexadecimal digits in five groups. It is read from that
  form, from the digits without hyphens, and from the braced and the URN forms,
  with digits in either case.

  Key definitions include:
    * `Uuid`
    * `Uuid.toText`
-/

structure Uuid where
  bits : BitVec 128
deriving DecidableEq

namespace Uuid

def hexDigit (n : Nat) : Char :=
  if n < 10 then Char.ofNat (48 + n)
  else Char.ofNat (87 + n)

def hexValue (c : Char) : Option Nat :=
  if 48 ≤ c.toNat ∧ c.toNat ≤ 57 then some (c.toNat - 48)
  else if 97 ≤ c.toNat ∧ c.toNat ≤ 102 then some (c.toNat - 87)
  else if 65 ≤ c.toNat ∧ c.toNat ≤ 70 then some (c.toNat - 55)
  else none

theorem hexValue_hexDigit : ∀ n < 16, hexValue (hexDigit n) = some n := by
  decide

/- The lowest `k` digits of `n`, the highest digit first. -/
def digits : Nat → Nat → List Nat
| 0, _ => []
| k + 1, n => digits k (n / 16) ++ [n % 16]

def ofDigits (ds : List Nat) : Nat := ds.foldl (fun n d => n * 16 + d) 0

@[simp] theorem length_digits (k n : Nat) : (digits k n).length = k := by
  induction k generalizing n with
  | zero => rfl
  | succ k ih => simp [digits, ih]

theorem digits_lt {k n d : Nat} (hMem : d ∈ digits k n) : d < 16 := by
  induction k generalizing n with
  | zero => cases hMem
  | succ k ih =>
    rcases List.mem_append.1 hMem with hHigh | hLow
    · exact ih hHigh
    · rw [List.mem_singleton.1 hLow]
      exact Nat.mod_lt n (by norm_num)

theorem ofDigits_digits {k n : Nat} (hBound : n < 16 ^ k) : ofDigits (digits k n) = n := by
  induction k generalizing n with
  | zero =>
    have hZero : n = 0 := by simpa using hBound
    simp [digits, ofDigits, hZero]
  | succ k ih =>
    have hHigh : n / 16 < 16 ^ k := by
      apply Nat.div_lt_of_lt_mul
      rwa [← Nat.pow_succ']
    have hRest := ih hHigh
    unfold ofDigits at hRest ⊢
    rw [digits, List.foldl_append]
    simp only [List.foldl_cons, List.foldl_nil]
    omega

theorem mapM_hexValue {ds : List Nat} (hDigits : ∀ d ∈ ds, d < 16) :
    (ds.map hexDigit).mapM hexValue = some ds := by
  induction ds with
  | nil => rfl
  | cons d ds ih =>
    have hHead := hexValue_hexDigit d (hDigits d (by simp))
    have hTail := ih (fun e he => hDigits e (by simp [he]))
    simp [hHead, hTail]

/- The lengths of the groups of digits. -/
def groups : List Nat := [8, 4, 4, 4, 12]

/- Separate groups of the given lengths by hyphens. -/
def joinGroups : List Nat → List Char → List Char
| [], _ => []
| [n], cs => cs.take n
| n :: ns, cs => cs.take n ++ '-' :: joinGroups ns (cs.drop n)

/- Remove the hyphens after groups of the given lengths. -/
def splitGroups : List Nat → List Char → Option (List Char)
| [], _ => some []
| [_], cs => some cs
| n :: ns, cs =>
  match cs.drop n with
  | '-' :: rest => (splitGroups ns rest).map (cs.take n ++ ·)
  | _ => none

variable (n : Nat) (ns : List Nat) {cs : List Char}

theorem splitGroups_joinGroups (hLength : cs.length = (n :: ns).sum) :
    splitGroups (n :: ns) (joinGroups (n :: ns) cs) = some cs := by
  induction ns generalizing n cs with
  | nil =>
    have hAll : cs.length ≤ n := by
      simp at hLength
      omega
    simp [joinGroups, splitGroups, List.take_of_length_le hAll]
  | cons m ms ih =>
    have hHead : (cs.take n).length = n := by
      rw [List.length_take]
      simp at hLength
      omega
    have hRest : (cs.drop n).length = (m :: ms).sum := by
      rw [List.length_drop, hLength]
      simp
    simp only [joinGroups, splitGroups]
    rw [List.drop_left' hHead, List.take_left' hHead]
    simp [ih m hRest]

theorem length_joinGroups (hLength : cs.length = (n :: ns).sum) :
    (joinGroups (n :: ns) cs).length = cs.length + ns.length := by
  induction ns generalizing n cs with
  | nil => simp [joinGroups, hLength]
  | cons m ms ih =>
    have hRest : (cs.drop n).length = (m :: ms).sum := by
      rw [List.length_drop, hLength]
      simp
    simp only [joinGroups, List.length_append,
      List.length_cons, ih m hRest, List.length_take, List.length_drop]
    omega

def toText (uuid : Uuid) : String := String.ofList (joinGroups groups
    ((digits 32 uuid.bits.toNat).map hexDigit))

def ofHex (cs : List Char) : Option Uuid := (cs.mapM hexValue).bind (fun ds =>
    if ds.length = 32 then some ⟨BitVec.ofNat 128 (ofDigits ds)⟩
    else none)

def ofHyphenated (cs : List Char) : Option Uuid := (splitGroups groups cs).bind ofHex

def ofText (text : String) : Option Uuid :=
  let cs := text.toList
  if cs.length = 32 then ofHex cs
  else if cs.length = 36 then ofHyphenated cs
  else if cs.length = 38 ∧ cs.head? = some '{' ∧ cs.getLast? = some '}' then
    ofHyphenated ((cs.drop 1).take 36)
  else if cs.length = 45 ∧ cs.take 9 = "urn:uuid:".toList then ofHyphenated (cs.drop 9)
  else none

/- Reading a printed UUID gives it back. -/
@[simp] theorem ofText_toText (uuid : Uuid) : ofText uuid.toText = some uuid := by
  have hHex : ofHex ((digits 32 uuid.bits.toNat).map hexDigit) = some uuid := by
    have hBound : uuid.bits.toNat < 16 ^ 32 := by
      have := uuid.bits.isLt
      exact this
    unfold ofHex
    rw [mapM_hexValue (fun d hd => digits_lt hd)]
    simp [ofDigits_digits hBound]
  have hLength : ((digits 32 uuid.bits.toNat).map hexDigit).length = groups.sum := by
    simp [groups]
  have hText : uuid.toText.toList.length = 36 := by
    simp only [toText, String.toList_ofList, groups]
    rw [length_joinGroups 8 [4, 4, 4, 12] hLength]
    simp
  unfold ofText
  simp only [hText]
  simp only [toText]
  simp [ofHyphenated, groups, splitGroups_joinGroups 8 [4, 4, 4, 12] hLength, hHex]

/- A UUID is written to JSON as its text. -/
def codec : Json.Codec Uuid := Json.Codec.names toText ofText ofText_toText

/- A small UUID, for concrete runs. -/
def ofNat (n : Nat) : Uuid := ⟨BitVec.ofNat 128 n⟩

end Uuid
