import Mathlib.Data.List.Nodup
import Mathlib.Data.List.Count
import Mathlib.Data.List.GetD
import Mathlib.Algebra.Group.Nat.Basic

/-!
# `encoding/base64` without padding

The API-key code stores salts and digests with `base64.RawStdEncoding` and emits
keys with `base64.RawURLEncoding`. Both are library encodings with `NoPadding`
and not `Strict`; this module models the two functions the code calls on them,
`EncodeToString` and `DecodeString`, over byte strings.

`Encoding` keeps the 64-byte alphabet with the checks `NewEncoding` makes on it
(64 bytes, no `\r` or `\n`, no byte twice; it panics otherwise), and `decodeMap`
is the table `NewEncoding` fills from it. `EncodeToString` maps each three-byte
group to four alphabet bytes and a final group of one or two bytes to two or
three. `DecodeString` is the loop of `decodeQuantum`: it gathers four alphabet
bytes into three output bytes, skips `\r` and `\n`, fails on any other byte
(`=` included, there being no padding), fails on a final group of one byte,
and ignores the bits a final group of two or three bytes leaves over. The
eight- and four-byte fast paths of `Decode` decode a group of alphabet bytes
as `decodeQuantum` would, so the model has only the slow loop. An error is the
offset `CorruptInputError` reports.

The round trip `decodeString_encodeToString`, and what a decoding says about
its input (`decodeString_ok`, `decodeString_isOk`), are what the API-key module
builds on.
-/

namespace Arqut

/-- A base64 alphabet, as `NewEncoding` accepts it. -/
structure Encoding where
  encode : List UInt8
  length_encode : encode.length = 64
  nodup : encode.Nodup
  not_mem_lf : (10 : UInt8) ∉ encode
  not_mem_cr : (13 : UInt8) ∉ encode

namespace Encoding

variable (enc : Encoding)

/-- `enc.encode[i]`. -/
def char (i : Nat) : UInt8 := enc.encode.getD i 0

/-- `enc.decodeMap[c]`: the index of `c` in the alphabet, `none` for
`invalidIndex`. -/
def decodeMap (c : UInt8) : Option Nat :=
  if c ∈ enc.encode then some (enc.encode.indexOf c) else none

/-- `EncodeToString` without padding. `val >> k & 0x3F` is `val / 2^k % 64`. -/
def encodeToString : List UInt8 → List UInt8
  | b0 :: b1 :: b2 :: rest =>
    let val := b0.toNat * 2 ^ 16 + b1.toNat * 2 ^ 8 + b2.toNat
    [enc.char (val / 2 ^ 18 % 64), enc.char (val / 2 ^ 12 % 64), enc.char (val / 2 ^ 6 % 64),
      enc.char (val % 64)] ++ encodeToString rest
  | [b0, b1] =>
    let val := b0.toNat * 2 ^ 16 + b1.toNat * 2 ^ 8
    [enc.char (val / 2 ^ 18 % 64), enc.char (val / 2 ^ 12 % 64), enc.char (val / 2 ^ 6 % 64)]
  | [b0] =>
    let val := b0.toNat * 2 ^ 16
    [enc.char (val / 2 ^ 18 % 64), enc.char (val / 2 ^ 12 % 64)]
  | [] => []

/-- The bytes of a quantum of `j ∈ {2, 3, 4}` sextets: `val` assembles them (the
missing ones are zero), and the first `j - 1` of `byte(val>>16)`, `byte(val>>8)`,
`byte(val)` are written. The sextets are below 64, so Go's `|` is `+`. -/
def quantumBytes (dbuf : List Nat) : List UInt8 :=
  let val := dbuf.getD 0 0 * 2 ^ 18 + dbuf.getD 1 0 * 2 ^ 12 + dbuf.getD 2 0 * 2 ^ 6 + dbuf.getD 3 0
  [(val / 2 ^ 16).toUInt8, (val / 2 ^ 8).toUInt8, val.toUInt8].take (dbuf.length - 1)

/-- The `decodeQuantum` loop from input offset `si`, with the sextets `dbuf` of
the current quantum gathered so far. -/
def decodeFrom (si : Nat) (dbuf : List Nat) : List UInt8 → Except Nat (List UInt8)
  | [] =>
    match dbuf with
    | [] => .ok []
    | [_] => .error (si - 1)
    | _ => .ok (quantumBytes dbuf)
  | c :: rest =>
    match enc.decodeMap c with
    | some v =>
      if dbuf.length = 3 then (decodeFrom (si + 1) [] rest).map (quantumBytes (dbuf ++ [v]) ++ ·)
      else decodeFrom (si + 1) (dbuf ++ [v]) rest
    | none => if c = 10 ∨ c = 13 then decodeFrom (si + 1) dbuf rest else .error si

/-- `DecodeString`: the bytes, or the offset of the `CorruptInputError`. -/
def decodeString (s : List UInt8) : Except Nat (List UInt8) := enc.decodeFrom 0 [] s

/-- `EncodedLen` without padding. -/
def encodedLen (n : Nat) : Nat := n / 3 * 4 + (n % 3 * 8 + 5) / 6

end Encoding

/-- The message of a `base64.CorruptInputError`. -/
def corruptInputError (offset : Nat) : String :=
  "illegal base64 data at input byte " ++ toString offset

/-- The bytes of an ASCII text. -/
def ascii (s : String) : List UInt8 := s.data.map Char.toUInt8

/-- `encodeStd`. -/
def encodeStd : List UInt8 := ascii "ABCDEFGHIJKLMNOPQRSTUVWXYZabcdefghijklmnopqrstuvwxyz0123456789+/"

/-- `encodeURL`. -/
def encodeURL : List UInt8 := ascii "ABCDEFGHIJKLMNOPQRSTUVWXYZabcdefghijklmnopqrstuvwxyz0123456789-_"

/-- Sixty-four distinct bytes: the three letter and digit ranges and two more
outside them. -/
theorem nodup_ranges {a b : Nat} (hab : a ≠ b)
    (ha : a < 48 ∨ 57 < a ∧ a < 65 ∨ 90 < a ∧ a < 97 ∨ 122 < a)
    (hb : b < 48 ∨ 57 < b ∧ b < 65 ∨ 90 < b ∧ b < 97 ∨ 122 < b) :
    (List.range' 65 26 ++ List.range' 97 26 ++ List.range' 48 10 ++ [a, b]).Nodup := by
  have hr : ∀ s n, (List.range' s n).Nodup := fun s n => List.nodup_range' s n
  simp only [List.nodup_append, List.nodup_cons, List.mem_cons, List.mem_range'_1, List.mem_append,
    List.not_mem_nil, List.nodup_nil, List.disjoint_left, or_false, hr, true_and, and_true,
    not_false_eq_true]
  refine ⟨⟨?_, ?_⟩, hab, ?_⟩ <;> intros <;> omega

/-- `base64.RawStdEncoding`. -/
def rawStdEncoding : Encoding where
  encode := encodeStd
  length_encode := by decide
  nodup := List.Nodup.of_map UInt8.toNat <| by
    rw [show encodeStd.map UInt8.toNat =
      List.range' 65 26 ++ List.range' 97 26 ++ List.range' 48 10 ++ [43, 47] by decide]
    exact nodup_ranges (by decide) (by decide) (by decide)
  not_mem_lf := by decide
  not_mem_cr := by decide

/-- `base64.RawURLEncoding`. -/
def rawURLEncoding : Encoding where
  encode := encodeURL
  length_encode := by decide
  nodup := List.Nodup.of_map UInt8.toNat <| by
    rw [show encodeURL.map UInt8.toNat =
      List.range' 65 26 ++ List.range' 97 26 ++ List.range' 48 10 ++ [45, 95] by decide]
    exact nodup_ranges (by decide) (by decide) (by decide)
  not_mem_lf := by decide
  not_mem_cr := by decide

/-! ## The alphabet and its table -/

namespace Encoding

variable (enc : Encoding)

theorem char_eq {i : Nat} (hi : i < 64) :
    enc.char i = enc.encode.get ⟨i, enc.length_encode ▸ hi⟩ :=
  List.getD_eq_getElem _ _ _

theorem char_mem {i : Nat} (hi : i < 64) : enc.char i ∈ enc.encode := by
  rw [char_eq enc hi]
  exact List.get_mem _ _ _

/-- `decodeMap` inverts the alphabet. -/
@[simp] theorem decodeMap_char {i : Nat} (hi : i < 64) : enc.decodeMap (enc.char i) = some i := by
  rw [decodeMap, if_pos (char_mem enc hi), char_eq enc hi, List.get_indexOf enc.nodup]

theorem mem_of_decodeMap {c : UInt8} {v : Nat} (h : enc.decodeMap c = some v) : c ∈ enc.encode := by
  unfold decodeMap at h
  split at h
  · assumption
  · cases h

theorem decodeMap_of_mem {c : UInt8} (h : c ∈ enc.encode) : ∃ v, enc.decodeMap c = some v :=
  ⟨_, if_pos h⟩

@[simp] theorem char_mod_mem (x : Nat) : enc.char (x % 64) ∈ enc.encode :=
  enc.char_mem (Nat.mod_lt _ (by decide))

end Encoding

/-! ## Bytes through sextets -/

theorem toUInt8_eq {n : Nat} {b : UInt8} (h : n % 256 = b.toNat) : n.toUInt8 = b :=
  UInt8.toNat.inj h

/-- Four sextets put back together: `val` of a group of 24 bits. -/
theorem sextets_eq {val : Nat} (h : val < 2 ^ 24) :
    val / 2 ^ 18 % 64 * 2 ^ 18 + val / 2 ^ 12 % 64 * 2 ^ 12 + val / 2 ^ 6 % 64 * 2 ^ 6 + val % 64 =
      val := by
  omega

/-- A group of three bytes read back from its four sextets. -/
theorem quantumBytes_four (b0 b1 b2 : UInt8) :
    let val := b0.toNat * 2 ^ 16 + b1.toNat * 2 ^ 8 + b2.toNat
    Encoding.quantumBytes [val / 2 ^ 18 % 64, val / 2 ^ 12 % 64, val / 2 ^ 6 % 64, val % 64] =
      [b0, b1, b2] := by
  intro val
  have h0 := UInt8.toNat_lt_size b0
  have h1 := UInt8.toNat_lt_size b1
  have h2 := UInt8.toNat_lt_size b2
  simp only [UInt8.size] at h0 h1 h2
  have hv : val = b0.toNat * 2 ^ 16 + b1.toNat * 2 ^ 8 + b2.toNat := rfl
  simp only [Encoding.quantumBytes, List.getD_cons_zero, List.getD_cons_succ, List.length_cons,
    List.length_nil, List.take, List.cons.injEq, and_true, sextets_eq (show val < 2 ^ 24 by omega)]
  refine ⟨toUInt8_eq ?_, toUInt8_eq ?_, toUInt8_eq ?_⟩ <;> omega

/-- A final group of two bytes read back from its three sextets. -/
theorem quantumBytes_three (b0 b1 : UInt8) :
    let val := b0.toNat * 2 ^ 16 + b1.toNat * 2 ^ 8
    Encoding.quantumBytes [val / 2 ^ 18 % 64, val / 2 ^ 12 % 64, val / 2 ^ 6 % 64] = [b0, b1] := by
  intro val
  have h0 := UInt8.toNat_lt_size b0
  have h1 := UInt8.toNat_lt_size b1
  simp only [UInt8.size] at h0 h1
  have hv : val = b0.toNat * 2 ^ 16 + b1.toNat * 2 ^ 8 := rfl
  have h3 : val % 64 = 0 := by omega
  have hre := sextets_eq (show val < 2 ^ 24 by omega)
  rw [h3] at hre
  simp only [Encoding.quantumBytes, List.getD_cons_zero, List.getD_cons_succ, List.getD_nil,
    List.length_cons, List.length_nil, List.take, List.cons.injEq, and_true, hre]
  refine ⟨toUInt8_eq ?_, toUInt8_eq ?_⟩ <;> omega

/-- A final byte read back from its two sextets. -/
theorem quantumBytes_two (b0 : UInt8) :
    let val := b0.toNat * 2 ^ 16
    Encoding.quantumBytes [val / 2 ^ 18 % 64, val / 2 ^ 12 % 64] = [b0] := by
  intro val
  have h0 := UInt8.toNat_lt_size b0
  simp only [UInt8.size] at h0
  have hv : val = b0.toNat * 2 ^ 16 := rfl
  have h2 : val / 2 ^ 6 % 64 = 0 := by omega
  have h3 : val % 64 = 0 := by omega
  have hre := sextets_eq (show val < 2 ^ 24 by omega)
  rw [h2, h3] at hre
  simp only [Encoding.quantumBytes, List.getD_cons_zero, List.getD_cons_succ, List.getD_nil,
    List.length_cons, List.length_nil, List.take, List.cons.injEq, and_true, hre]
  exact toUInt8_eq (by omega)

/-! ## The round trip -/

namespace Encoding

variable (enc : Encoding)

/-- Four alphabet bytes decode to the three bytes of their sextets. -/
theorem decodeFrom_group (si : Nat) {c0 c1 c2 c3 : Nat} (h0 : c0 < 64) (h1 : c1 < 64)
    (h2 : c2 < 64) (h3 : c3 < 64) (rest : List UInt8) :
    enc.decodeFrom si [] (enc.char c0 :: enc.char c1 :: enc.char c2 :: enc.char c3 :: rest) =
      (enc.decodeFrom (si + 4) [] rest).map (quantumBytes [c0, c1, c2, c3] ++ ·) := by
  simp [decodeFrom, h0, h1, h2, h3]

theorem decodeFrom_encodeToString :
    ∀ (b : List UInt8) (si : Nat), enc.decodeFrom si [] (enc.encodeToString b) = .ok b
  | b0 :: b1 :: b2 :: rest, si => by
    rw [encodeToString, List.cons_append, List.cons_append, List.cons_append, List.cons_append,
      List.nil_append, decodeFrom_group enc si (Nat.mod_lt _ (by decide)) (Nat.mod_lt _ (by decide))
        (Nat.mod_lt _ (by decide)) (Nat.mod_lt _ (by decide)),
      decodeFrom_encodeToString rest (si + 4), quantumBytes_four]
    rfl
  | [b0, b1], si => by
    simpa [encodeToString, decodeFrom, Nat.mod_lt] using quantumBytes_three b0 b1
  | [b0], si => by
    simpa [encodeToString, decodeFrom, Nat.mod_lt] using quantumBytes_two b0
  | [], _ => rfl

/-- `DecodeString` reads back what `EncodeToString` wrote. -/
theorem decodeString_encodeToString (b : List UInt8) :
    enc.decodeString (enc.encodeToString b) = .ok b :=
  enc.decodeFrom_encodeToString b 0

end Encoding

/-! ## What an encoding and a decoding look like -/

namespace Encoding

variable (enc : Encoding)

/-- `EncodeToString` writes only alphabet bytes. -/
theorem mem_encodeToString : ∀ b : List UInt8, ∀ c ∈ enc.encodeToString b, c ∈ enc.encode
  | _ :: _ :: _ :: rest => by
    rw [encodeToString]
    exact List.forall_mem_append.mpr ⟨by simp, mem_encodeToString rest⟩
  | [_, _] | [_] | [] => by simp [encodeToString]

/-- `EncodeToString` writes `EncodedLen` bytes. -/
theorem length_encodeToString : ∀ b : List UInt8, (enc.encodeToString b).length = encodedLen b.length
  | _ :: _ :: _ :: rest => by
    simp only [encodeToString, List.length_append, List.length_cons, List.length_nil,
      length_encodeToString rest, encodedLen]
    omega
  | [_, _] | [_] | [] => by simp [encodeToString, encodedLen]

/-- A successful decoding has read only alphabet bytes, `\r` and `\n`, and writes
six bits for each alphabet byte, rounded down to whole bytes. -/
theorem decodeFrom_ok {si : Nat} {dbuf : List Nat} {src out : List UInt8} (hd : dbuf.length < 4)
    (h : enc.decodeFrom si dbuf src = .ok out) :
    (∀ c ∈ src, c ∈ enc.encode ∨ c = 10 ∨ c = 13) ∧
      out.length = (dbuf.length + src.countP (· ∈ enc.encode)) * 6 / 8 := by
  induction src generalizing si dbuf out with
  | nil =>
    refine ⟨fun _ h => (nomatch h), ?_⟩
    rcases dbuf with _ | ⟨a, _ | ⟨b, _ | ⟨c, _ | ⟨d, _ | ⟨e, rest⟩⟩⟩⟩⟩ <;>
      simp only [decodeFrom, Except.ok.injEq, reduceCtorEq] at h <;>
      simp [← h, quantumBytes] at hd ⊢
    omega
  | cons c rest ih =>
    cases hc : enc.decodeMap c with
    | some v =>
      have hmem := enc.mem_of_decodeMap hc
      have hcount : (c :: rest).countP (· ∈ enc.encode) = rest.countP (· ∈ enc.encode) + 1 :=
        List.countP_cons_of_pos _ rest (by simpa using hmem)
      simp only [decodeFrom, hc] at h
      split at h
      · -- the fourth sextet completes a quantum
        rcases hr : enc.decodeFrom (si + 1) [] rest with _ | out' <;> rw [hr] at h
        · cases h
        · cases h
          obtain ⟨hall, hlen⟩ := ih (by decide) hr
          refine ⟨List.forall_mem_cons.mpr ⟨.inl hmem, hall⟩, ?_⟩
          simp only [List.length_append, quantumBytes, List.length_cons, List.length_nil,
            List.length_take, hlen, hcount, *]
          omega
      · -- the sextet joins the quantum
        obtain ⟨hall, hlen⟩ := ih (by simp; omega) h
        refine ⟨List.forall_mem_cons.mpr ⟨.inl hmem, hall⟩, ?_⟩
        rw [hlen, hcount, List.length_append, List.length_singleton]
        omega
    | none =>
      simp only [decodeFrom, hc] at h
      split at h
      · -- a skipped `\r` or `\n`
        rename_i hnl
        have hnot : c ∉ enc.encode := by
          rcases hnl with rfl | rfl
          exacts [enc.not_mem_lf, enc.not_mem_cr]
        obtain ⟨hall, hlen⟩ := ih hd h
        refine ⟨List.forall_mem_cons.mpr ⟨.inr hnl, hall⟩, ?_⟩
        rw [hlen, List.countP_cons_of_neg _ rest (by simpa using hnot)]
      · cases h

/-- A run of alphabet bytes that does not leave a lone byte in its last quantum
decodes. -/
theorem decodeFrom_isOk {si : Nat} {dbuf : List Nat} {src : List UInt8}
    (hsrc : ∀ c ∈ src, c ∈ enc.encode) (hd : dbuf.length < 4)
    (hlen : (dbuf.length + src.length) % 4 ≠ 1) : ∃ out, enc.decodeFrom si dbuf src = .ok out := by
  induction src generalizing si dbuf with
  | nil =>
    rcases dbuf with _ | ⟨a, _ | ⟨b, _ | ⟨c, _ | ⟨d, rest⟩⟩⟩⟩ <;> simp [decodeFrom] at hd hlen ⊢
  | cons c rest ih =>
    obtain ⟨hc, hrest⟩ := List.forall_mem_cons.mp hsrc
    obtain ⟨v, hv⟩ := enc.decodeMap_of_mem hc
    simp only [decodeFrom, hv]
    split
    · obtain ⟨out, ho⟩ := @ih (si + 1) [] hrest (by decide)
        (by simp only [List.length_cons] at hlen; simp; omega)
      exact ⟨_, by rw [ho]; rfl⟩
    · exact ih hrest (by simp; omega) (by simp only [List.length_cons] at hlen; simp; omega)

/-- `DecodeString` of alphabet bytes succeeds unless a lone byte is left over. -/
theorem decodeString_isOk {src : List UInt8} (hsrc : ∀ c ∈ src, c ∈ enc.encode)
    (hlen : src.length % 4 ≠ 1) : ∃ out, enc.decodeString src = .ok out :=
  enc.decodeFrom_isOk hsrc (by decide) (by simpa using hlen)

/-- A successful `DecodeString` read only alphabet bytes, `\r` and `\n`, and wrote
`6 / 8` of a byte for each alphabet byte, rounded down. -/
theorem decodeString_ok {src out : List UInt8} (h : enc.decodeString src = .ok out) :
    (∀ c ∈ src, c ∈ enc.encode ∨ c = 10 ∨ c = 13) ∧
      out.length = src.countP (· ∈ enc.encode) * 6 / 8 := by
  simpa using enc.decodeFrom_ok (by decide) h

end Encoding

end Arqut
