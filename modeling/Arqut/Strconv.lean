import Mathlib.Data.List.Count
import Mathlib.Data.Nat.Digits
import Mathlib.Tactic.IntervalCases

/-!
# Go's decimal integers and `strings.SplitN`

The text layer of the credential scheme: `fmt`'s `%d` of an `int64`, which is
Lean's `toString` on `Int` (a `-` then the decimal digits, most significant
first); `strconv.ParseInt(s, 10, 64)`, with `none` for every error it can
return; and `strings.SplitN(s, ":", n)`. Go strings are bytes, Lean strings are
characters; the two agree here because every byte these functions test is
ASCII and no UTF-8 sequence of a wider character contains an ASCII byte.

`int64` values are integers; arithmetic that Go performs in `int64` wraps
through `wrapInt64`.

The round trip `parseInt_toString` is proved through `Nat.toDigitsCore`, the
loop behind `Nat.repr`: it prepends digits to an accumulator
(`toDigitsCore_append`), and with enough fuel the digits it produces read back
as the number (`toDigitsCore_spec`).
-/

namespace Arqut

/-- Go's `int64` arithmetic: two's-complement wraparound. -/
def wrapInt64 (x : Int) : Int := x.bmod (2 ^ 64)

theorem wrapInt64_of_bounds {x : Int} (h₁ : -2 ^ 63 ≤ x) (h₂ : x < 2 ^ 63) : wrapInt64 x = x := by
  rw [wrapInt64, Int.bmod_def]
  split <;> omega

/-- Past the top of the range by less than `2^63`, a sum comes out `2^64` lower. -/
theorem wrapInt64_of_overflow {x : Int} (h₁ : 2 ^ 63 ≤ x) (h₂ : x < 2 ^ 64) :
    wrapInt64 x = x - 2 ^ 64 := by
  rw [wrapInt64, Int.bmod_def]
  split <;> omega

/-- The value of a decimal digit character. -/
def digitValue (c : Char) : Nat := c.toNat - '0'.toNat

/-- The digit loop read left to right. -/
def digitsValue (s : List Char) : Nat := s.foldl (fun n c => n * 10 + digitValue c) 0

/-- `strconv.ParseUint(s, 10, 64)`: `none` on an empty string, on any byte outside
`0-9` (base 10 admits no `_`), and on a value past 64 bits. -/
def parseUint (s : List Char) : Option Nat :=
  if s ≠ [] ∧ s.all Char.isDigit = true then
    if digitsValue s < 2 ^ 64 then some (digitsValue s) else none
  else none

/-- `strconv.ParseInt(s, 10, 64)`: an optional sign, then `ParseUint`, then the
`int64` range check. -/
def parseInt (s : String) : Option Int :=
  match s.data with
  | '+' :: rest => (parseUint rest).bind fun un => if un < 2 ^ 63 then some (un : Int) else none
  | '-' :: rest =>
    (parseUint rest).bind fun un => if un ≤ 2 ^ 63 then some (-(un : Int)) else none
  | cs => (parseUint cs).bind fun un => if un < 2 ^ 63 then some (un : Int) else none

/-- `strings.SplitN(s, ":", n)`: at most `n` pieces, the last one holding the rest. -/
def splitN : Nat → List Char → List (List Char)
  | 0, _ => []
  | 1, s => [s]
  | n + 2, s =>
    match s.dropWhile (· != ':') with
    | [] => [s]
    | _ :: post => s.takeWhile (· != ':') :: splitN (n + 1) post

/-! ## Reading digits back -/

theorem digitsValue_append (s t : List Char) :
    digitsValue (s ++ t) = t.foldl (fun n c => n * 10 + digitValue c) (digitsValue s) := by
  simp [digitsValue, List.foldl_append]

theorem digitChar_spec {k : Nat} (hk : k < 10) :
    (Nat.digitChar k).isDigit = true ∧ digitValue (Nat.digitChar k) = k := by
  interval_cases k <;> decide

theorem toDigitsCore_append (f n : Nat) (ds : List Char) :
    Nat.toDigitsCore 10 f n ds = Nat.toDigitsCore 10 f n [] ++ ds := by
  induction f generalizing n ds with
  | zero => rfl
  | succ f ih =>
    simp only [Nat.toDigitsCore]
    split
    · rfl
    · rw [ih _ (_ :: ds), ih _ [_]]; simp

/-- With fuel above `n`, `toDigitsCore` yields digits that read back as `n`. -/
theorem toDigitsCore_spec (f n : Nat) (hf : n < f) :
    (Nat.toDigitsCore 10 f n []).all Char.isDigit = true ∧
      digitsValue (Nat.toDigitsCore 10 f n []) = n ∧ Nat.toDigitsCore 10 f n [] ≠ [] := by
  induction f generalizing n with
  | zero => omega
  | succ f ih =>
    obtain ⟨hd, hv⟩ := digitChar_spec (Nat.mod_lt n (by decide : 10 > 0))
    simp only [Nat.toDigitsCore]
    split
    · rename_i h0
      refine ⟨by simpa using hd, ?_, by simp⟩
      simp [digitsValue, hv]; omega
    · rename_i h0
      obtain ⟨ih1, ih2, -⟩ := ih (n / 10) (by omega)
      rw [toDigitsCore_append, digitsValue_append, ih2]
      refine ⟨by simp_all, ?_, by simp⟩
      simp only [List.foldl_cons, List.foldl_nil, hv]
      omega

theorem toString_nat_data (n : Nat) : (toString n).data = Nat.toDigitsCore 10 (n + 1) n [] := rfl

theorem parseUint_toString {n : Nat} (hn : n < 2 ^ 64) : parseUint (toString n).data = some n := by
  obtain ⟨h1, h2, h3⟩ := toDigitsCore_spec (n + 1) n (by omega)
  rw [parseUint, toString_nat_data, if_pos ⟨h3, h1⟩, h2, if_pos hn]

theorem toString_nat_head (n : Nat) :
    ∃ c cs, (toString n).data = c :: cs ∧ c.isDigit = true ∧ cs.all Char.isDigit = true := by
  obtain ⟨h1, -, h3⟩ := toDigitsCore_spec (n + 1) n (by omega)
  rw [toString_nat_data]
  obtain ⟨c, cs, hc⟩ := List.exists_cons_of_ne_nil h3
  rw [hc] at h1 ⊢
  simp only [List.all_cons, Bool.and_eq_true] at h1
  exact ⟨c, cs, rfl, h1⟩

theorem digitsValue_toString (n : Nat) : digitsValue (toString n).data = n :=
  (toDigitsCore_spec (n + 1) n (by omega)).2.1

/-- `%d` prints distinct integers as distinct texts. -/
theorem toString_int_data_inj {a b : Int} : (toString a).data = (toString b).data ↔ a = b := by
  refine ⟨fun h => ?_, fun h => h ▸ rfl⟩
  have hnat : ∀ m n : Nat, (toString m).data = (toString n).data → m = n := fun m n h => by
    rw [← digitsValue_toString m, ← digitsValue_toString n, h]
  have hneg : ∀ m n : Nat, (toString (Int.ofNat m)).data ≠ (toString (Int.negSucc n)).data :=
    fun m n h => by
      obtain ⟨c, cs, hc, hd, -⟩ := toString_nat_head m
      have h' : (toString m).data = '-' :: (toString (n + 1)).data := h
      rw [hc] at h'
      cases h'
      exact absurd hd (by decide)
  cases a with
  | ofNat m =>
    cases b with
    | ofNat n => exact congrArg _ (hnat m n h)
    | negSucc n => exact absurd h (hneg m n)
  | negSucc m =>
    cases b with
    | ofNat n => exact absurd h.symm (hneg n m)
    | negSucc n =>
      have h' : '-' :: (toString (m + 1)).data = '-' :: (toString (n + 1)).data := h
      have := hnat _ _ (List.cons.inj h').2
      exact congrArg _ (by omega)

/-- `ParseInt` reads back every `int64` that `%d` prints. -/
theorem parseInt_toString {e : Int} (h1 : -2 ^ 63 ≤ e) (h2 : e < 2 ^ 63) :
    parseInt (toString e) = some e := by
  cases e with
  | ofNat n =>
    have hn : n < 2 ^ 63 := by simp only [Int.ofNat_eq_coe] at h2; omega
    obtain ⟨c, cs, hcs, hc, -⟩ := toString_nat_head n
    have hdata : (toString (Int.ofNat n)).data = c :: cs := hcs
    have hu : parseUint (c :: cs) = some n := hcs ▸ parseUint_toString (by omega)
    unfold parseInt
    rw [hdata]
    split
    · rename_i h; cases h; exact absurd hc (by decide)
    · rename_i h; cases h; exact absurd hc (by decide)
    · rw [hu, Option.some_bind, if_pos hn]; rfl
  | negSucc m =>
    have hdata : (toString (Int.negSucc m)).data = '-' :: (toString (m + 1)).data := rfl
    have hm : m + 1 ≤ 2 ^ 63 := by rw [Int.negSucc_eq] at h1; omega
    rw [parseInt, hdata]
    simp only [parseUint_toString (by omega : m + 1 < 2 ^ 64), Option.some_bind, if_pos hm]
    rw [Int.negSucc_eq]; push_cast; rfl

/-- Every value `ParseInt` yields is an `int64`. -/
theorem parseInt_bounds {s : String} {e : Int} (h : parseInt s = some e) :
    -2 ^ 63 ≤ e ∧ e < 2 ^ 63 := by
  unfold parseInt at h
  split at h <;>
  · obtain ⟨u, -, hu⟩ := Option.bind_eq_some.mp h
    split_ifs at hu
    cases hu
    omega

/-! ## Splitting on `:` -/

/-- Where the first `:` of `s` is, if it has one. -/
theorem dropWhile_colon {s post : List Char} {c : Char}
    (h : s.dropWhile (· != ':') = c :: post) :
    c = ':' ∧ s = s.takeWhile (· != ':') ++ ':' :: post := by
  have hc : c = ':' := by
    have := List.head_dropWhile_not (· != ':') s (by simp [h])
    simpa [h] using this
  subst hc
  exact ⟨rfl, by rw [← h, List.takeWhile_append_dropWhile]⟩

theorem colon_not_mem_takeWhile (s : List Char) : ':' ∉ s.takeWhile (· != ':') :=
  fun h => by simpa using List.mem_takeWhile_imp h

theorem splitN_three_of_colon_free {a b : List Char} (ha : ':' ∉ a) (hb : ':' ∉ b)
    (c : List Char) : splitN 3 (a ++ ':' :: (b ++ ':' :: c)) = [a, b, c] := by
  have hcut : ∀ (p r : List Char), ':' ∉ p →
      (p ++ ':' :: r).dropWhile (· != ':') = ':' :: r ∧
        (p ++ ':' :: r).takeWhile (· != ':') = p := fun p r hp => by
    have hpos : ∀ x ∈ p, (x != ':') = true := fun x hx => by
      simpa using fun h : x = ':' => hp (h ▸ hx)
    simp [List.dropWhile_append_of_pos hpos, List.takeWhile_append_of_pos hpos]
  obtain ⟨ha1, ha2⟩ := hcut a (b ++ ':' :: c) ha
  obtain ⟨hb1, hb2⟩ := hcut b c hb
  simp only [splitN, ha1, ha2, hb1, hb2]

/-- Three pieces of `SplitN` put back together, with the two separators it cut. -/
theorem splitN_three_eq {s x y z : List Char} (h : splitN 3 s = [x, y, z]) :
    s = x ++ ':' :: (y ++ ':' :: z) ∧ ':' ∉ x ∧ ':' ∉ y := by
  simp only [splitN] at h
  split at h
  · cases h
  · rename_i c post hs
    split at h
    · simp at h
    · rename_i c' post' hs'
      simp only [List.cons.injEq, and_true] at h
      obtain ⟨rfl, rfl, rfl⟩ := h
      obtain ⟨-, e1⟩ := dropWhile_colon hs
      obtain ⟨-, e2⟩ := dropWhile_colon hs'
      exact ⟨e1.trans (by rw [← e2]), colon_not_mem_takeWhile s, colon_not_mem_takeWhile post⟩

end Arqut
