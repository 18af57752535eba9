/-
# Public keys in hexadecimal

A key is written with two lower-case digits for each of its bytes, and read from a string
of 64 bytes by handing the bytes, two at a time, to the parser of machine integers. That
parser takes a plus sign, so a string may stand for a key without being hexadecimal.
-/

import NoPanic.Common.Types
import NoPanic.Math.Numeral

namespace NoPanic

open NoPanic.Math

namespace PublicKey

/-- Read the byte at a position from its two bytes of text. -/
def hexByte (hex : String) (i : Nat) : Except String UInt8 :=
  match substring? hex (i * 2) (i * 2 + 2) with
  | none => .error s!"Invalid hex slice at position {i}"
  | some hexSlice =>
      match parseUnsigned 256 16 hexSlice.toList with
      | .error e => .error ("Invalid hex: " ++ e.display)
      | .ok byte => .ok (UInt8.ofNat byte)

/-- Read `n` bytes from a position on. -/
def hexBytes (hex : String) : (n i : Nat) → Except String (FixedBytes n)
  | 0, _ => .ok ⟨[], rfl⟩
  | n + 1, i =>
      match hexByte hex i, hexBytes hex n (i + 1) with
      | .error e, _ => .error e
      | .ok _, .error e => .error e
      | .ok byte, .ok bytes => .ok ⟨byte :: bytes.1, by rw [List.length_cons, bytes.2]⟩

/-- Read a key from 64 hexadecimal digits. -/
def fromHex (hex : String) : Except String PublicKey :=
  if hex.utf8ByteSize ≠ 64 then .error "Hex string must be 64 characters (32 bytes)"
  else
    match hexBytes hex 32 0 with
    | .error e => .error e
    | .ok bytes => .ok ⟨bytes⟩

/-- Write a key with two digits for each byte. -/
def toHex (key : PublicKey) : String := String.ofList (key.bytes.1.flatMap hexDigits)

/-! ## What is read -/

/-- A text is read as bytes, two characters a byte. -/
inductive HexPairs : List Char → Bytes → Prop
  | nil : HexPairs [] []
  | cons {a b : Char} {x y : Nat} {cs : List Char} {bytes : Bytes}
      (hfirst : digit? 16 (unsigned a) = some x) (hsecond : digit? 16 b = some y)
      (hrest : HexPairs cs bytes) : HexPairs (a :: b :: cs) (UInt8.ofNat (16 * x + y) :: bytes)

/-- A digit takes one byte. -/
theorem utf8Size_of_digit? {c : Char} {d : Nat} (hdigit : digit? 16 c = some d) :
    c.utf8Size = 1 := by
  obtain ⟨-, -, hhex⟩ := toLower_of_digit? hdigit
  simp only [isHexdigit, Bool.or_eq_true, Bool.and_eq_true, decide_eq_true_eq] at hhex
  rw [Char.utf8Size_eq_one_iff]
  rcases hhex with (⟨-, hhigh⟩ | ⟨-, hhigh⟩) | ⟨-, hhigh⟩
  · exact UInt32.le_trans hhigh (by decide)
  · exact UInt32.le_trans hhigh (by decide)
  · exact UInt32.le_trans hhigh (by decide)

/-- A digit or a plus sign takes one byte. -/
theorem utf8Size_of_unsigned {c : Char} {d : Nat} (hdigit : digit? 16 (unsigned c) = some d) :
    c.utf8Size = 1 := by
  rw [unsigned] at hdigit
  split at hdigit
  · next hplus =>
    rw [hplus]
    decide
  · exact utf8Size_of_digit? hdigit

/-- Two bytes of text that are read are two characters. -/
theorem pair_of_takeBytes? {rest cs : List Char} {n : Nat} (htake : takeBytes? rest 2 = some cs)
    (hread : parseUnsigned 256 16 cs = .ok n) :
    ∃ a b rest', rest = a :: b :: rest' ∧ cs = [a, b] := by
  cases rest with
  | nil => cases htake
  | cons a rest =>
      have hpos := a.utf8Size_pos
      rw [takeBytes?] at htake
      split at htake
      · next hfits =>
        by_cases hone : a.utf8Size = 1
        · rw [hone] at htake
          cases rest with
          | nil => cases htake
          | cons b rest =>
              have hpos' := b.utf8Size_pos
              rw [takeBytes?] at htake
              split at htake
              · next hfits' =>
                rw [show 0 + 1 - b.utf8Size = 0 by omega, takeBytes?_zero] at htake
                cases htake
                exact ⟨a, b, rest, rfl, rfl⟩
              · cases htake
        · -- one character of two bytes is no digit
          rw [show 1 + 1 - a.utf8Size = 0 by omega, takeBytes?_zero] at htake
          cases htake
          rw [parseUnsigned] at hread
          split at hread
          · cases hread
          · next hsign =>
            rw [if_neg fun hplus => hsign ⟨rfl, Or.inl hplus⟩, parseDigits] at hread
            split at hread
            · cases hread
            · next d hdigit => exact absurd (utf8Size_of_digit? hdigit) hone
      · cases htake

/-- A byte is read where two characters stand that are digits, or a sign and a digit. -/
theorem hexByte_ok_iff {hex : String} {i : Nat} {rest : List Char} {byte : UInt8}
    (hdrop : dropBytes? hex.toList (i * 2) = some rest) :
    hexByte hex i = .ok byte ↔ ∃ a b x y rest', rest = a :: b :: rest' ∧
      digit? 16 (unsigned a) = some x ∧ digit? 16 b = some y ∧ byte = UInt8.ofNat (16 * x + y) := by
  have hsub : substring? hex (i * 2) (i * 2 + 2) = (takeBytes? rest 2).map String.ofList := by
    rw [substring?, hdrop, Option.bind_some, Nat.add_sub_cancel_left]
  rw [hexByte, hsub]
  constructor
  · intro hread
    cases htake : takeBytes? rest 2 with
    | none => simp [htake] at hread
    | some cs =>
        simp only [htake, Option.map_some, String.toList_ofList] at hread
        cases hparse : parseUnsigned 256 16 cs with
        | error e => simp [hparse] at hread
        | ok n =>
            obtain ⟨a, b, rest', rfl, rfl⟩ := pair_of_takeBytes? htake hparse
            obtain ⟨x, y, hx, hy, rfl⟩ := parseUnsigned_pair.mp hparse
            simp only [hparse, Except.ok.injEq] at hread
            exact ⟨a, b, x, y, rest', rfl, hx, hy, hread.symm⟩
  · rintro ⟨a, b, x, y, rest', rfl, hx, hy, rfl⟩
    have htake : takeBytes? (a :: b :: rest') 2 = some [a, b] := by
      simp [takeBytes?, utf8Size_of_unsigned hx, utf8Size_of_digit? hy]
    simp only [htake, Option.map_some, String.toList_ofList,
      parseUnsigned_pair.mpr ⟨x, y, hx, hy, rfl⟩]

/-- A text of pairs has two bytes for every byte it is read as. -/
theorem HexPairs.sum_utf8Size {cs : List Char} {bytes : Bytes} (h : HexPairs cs bytes) :
    (cs.map Char.utf8Size).sum = 2 * bytes.length := by
  induction h with
  | nil => rfl
  | cons hx hy hrest ih =>
      simp only [List.map_cons, List.sum_cons, utf8Size_of_unsigned hx, utf8Size_of_digit? hy, ih,
        List.length_cons]
      omega

/-- Bytes are read where a text of their pairs stands. -/
theorem hexBytes_ok_iff {hex : String} {n i : Nat} {rest : List Char} {bytes : FixedBytes n}
    (hdrop : dropBytes? hex.toList (i * 2) = some rest)
    (hsize : (rest.map Char.utf8Size).sum = 2 * n) :
    hexBytes hex n i = .ok bytes ↔ HexPairs rest bytes.1 := by
  induction n generalizing i rest with
  | zero =>
      have hnil : rest = [] := by
        cases rest with
        | nil => rfl
        | cons c rest =>
            have hpos := c.utf8Size_pos
            simp only [List.map_cons, List.sum_cons] at hsize
            omega
      have hbytes : bytes = ⟨[], rfl⟩ := Subtype.ext (List.length_eq_zero_iff.mp bytes.2)
      subst hnil hbytes
      exact ⟨fun _ => .nil, fun _ => rfl⟩
  | succ n ih =>
      have hnext : ∀ {a b : Char} {rest' : List Char} {x y : Nat}, rest = a :: b :: rest' →
          digit? 16 (unsigned a) = some x → digit? 16 b = some y →
          dropBytes? hex.toList ((i + 1) * 2) = some rest' ∧
            (rest'.map Char.utf8Size).sum = 2 * n := by
        intro a b rest' x y hrest hx hy
        have ha := utf8Size_of_unsigned hx
        have hb := utf8Size_of_digit? hy
        subst hrest
        constructor
        · rw [Nat.succ_mul, dropBytes?_add 2 hdrop]
          simp [dropBytes?, ha, hb]
        · simp only [List.map_cons, List.sum_cons, ha, hb] at hsize
          omega
      constructor
      · intro hread
        rw [hexBytes] at hread
        cases hbyte : hexByte hex i with
        | error e => simp [hbyte] at hread
        | ok byte =>
            obtain ⟨a, b, x, y, rest', hrest, hx, hy, rfl⟩ := (hexByte_ok_iff hdrop).mp hbyte
            obtain ⟨hdrop', hsize'⟩ := hnext hrest hx hy
            cases htail : hexBytes hex n (i + 1) with
            | error e => simp [hbyte, htail] at hread
            | ok tail =>
                simp only [hbyte, htail, Except.ok.injEq] at hread
                rw [← hread, hrest]
                exact .cons hx hy ((ih hdrop' hsize').mp htail)
      · intro hpairs
        obtain ⟨bytes, hlength⟩ := bytes
        cases hpairs with
        | nil => simp at hlength
        | @cons a b x y cs tail hx hy hrest =>
            obtain ⟨hdrop', hsize'⟩ := hnext rfl hx hy
            have hbyte := (hexByte_ok_iff hdrop).mpr ⟨a, b, x, y, cs, rfl, hx, hy, rfl⟩
            have htail : hexBytes hex n (i + 1) = .ok ⟨tail, by simpa using hlength⟩ :=
              (ih hdrop' hsize').mpr hrest
            rw [hexBytes, hbyte, htail]

/-- A key is read from the text of its pairs. -/
theorem fromHex_ok_iff {hex : String} {key : PublicKey} :
    fromHex hex = .ok key ↔ HexPairs hex.toList key.bytes.1 := by
  have hsize : hex.utf8ByteSize = (hex.toList.map Char.utf8Size).sum := by
    rw [← utf8ByteSize_ofList, String.ofList_toList]
  have hdrop : dropBytes? hex.toList (0 * 2) = some hex.toList := dropBytes?_zero _
  rw [fromHex]
  split
  · next hlong =>
    simp only [reduceCtorEq, false_iff]
    intro hpairs
    have hlength := hpairs.sum_utf8Size
    rw [key.bytes.2] at hlength
    omega
  · next hlong =>
    have hread : ∀ bytes : FixedBytes 32,
        hexBytes hex 32 0 = .ok bytes ↔ HexPairs hex.toList bytes.1 :=
      fun _ => hexBytes_ok_iff hdrop (by omega)
    cases hbytes : hexBytes hex 32 0 with
    | error e =>
        simp only [reduceCtorEq, false_iff]
        intro hpairs
        rw [(hread key.bytes).mpr hpairs] at hbytes
        cases hbytes
    | ok bytes =>
        rw [← hread key.bytes, hbytes]
        simp only [Except.ok.injEq]
        constructor
        · intro hkey
          rw [← hkey]
        · intro heq
          rw [heq]

/-! ## What is written -/

/-- What is read is written in lower case, a zero standing where a sign was. -/
theorem HexPairs.flatMap_hexDigits {cs : List Char} {bytes : Bytes} (h : HexPairs cs bytes) :
    bytes.flatMap hexDigits = (cs.map unsigned).map Char.toLower := by
  induction h with
  | nil => rfl
  | @cons a b x y cs bytes hx hy hrest ih =>
      obtain ⟨hx16, hlowx, -⟩ := toLower_of_digit? hx
      obtain ⟨hy16, hlowy, hhex⟩ := toLower_of_digit? hy
      have hb : unsigned b = b := unsigned_of_digit? hy
      have hbyte : (UInt8.ofNat (16 * x + y)).toNat = 16 * x + y := by
        rw [UInt8.toNat_ofNat']
        omega
      rw [List.flatMap_cons, ih, hexDigits, hbyte, leftpad_toDigits hx16 hy16]
      simp [hb, hlowx, hlowy]

/-- A written key is a text of pairs. -/
theorem hexPairs_hexDigits (bytes : Bytes) : HexPairs (bytes.flatMap hexDigits) bytes := by
  induction bytes with
  | nil => exact .nil
  | cons byte bytes ih =>
      have hlt := byte.toNat_lt
      have hsplit : 16 * (byte.toNat / 16) + byte.toNat % 16 = byte.toNat := Nat.div_add_mod _ _
      have hx : byte.toNat / 16 < 16 := by omega
      have hy : byte.toNat % 16 < 16 := Nat.mod_lt _ (by decide)
      have hdigits : hexDigits byte =
          [(byte.toNat / 16).digitChar, (byte.toNat % 16).digitChar] := by
        rw [hexDigits, ← leftpad_toDigits hx hy, hsplit]
      have hfirst : digit? 16 (unsigned (byte.toNat / 16).digitChar) = some (byte.toNat / 16) := by
        have hdigit := digit?_digitChar hx (le_refl 16)
        rwa [unsigned_of_digit? hdigit]
      have hpair := HexPairs.cons hfirst (digit?_digitChar hy (le_refl 16)) ih
      rw [hsplit, UInt8.ofNat_toNat] at hpair
      rwa [List.flatMap_cons, hdigits]

/-! ## Strings and keys -/

/-- A string of exactly 64 hexadecimal digits. -/
def IsHex (s : String) : Prop := s.length = 64 ∧ ∀ c ∈ s.toList, isHexdigit c = true

/-- What the text of a key promises of a string: it is read exactly when it is 64
hexadecimal digits, and the key is then written as the string in lower case. -/
def HexKept (s : String) : Prop :=
  ((∃ key, fromHex s = .ok key) ↔ IsHex s) ∧ ∀ key, fromHex s = .ok key → key.toHex = s.toLower

/-- Pairs of a digit, or a plus sign in its place, and a digit. -/
def digitPairs : List Char → Bool
  | [] => true
  | [_] => false
  | a :: b :: cs => (isHexdigit a || a == '+') && isHexdigit b && digitPairs cs

/-- A string of 32 such pairs with a plus sign among them. -/
def SignedHex (s : String) : Prop :=
  s.length = 64 ∧ digitPairs s.toList = true ∧ '+' ∈ s.toList

/-- A text of pairs has two characters for every byte it is read as. -/
theorem HexPairs.length_eq {cs : List Char} {bytes : Bytes} (h : HexPairs cs bytes) :
    cs.length = 2 * bytes.length := by
  induction h with
  | nil => rfl
  | cons hx hy hrest ih =>
      simp only [List.length_cons, ih]
      omega

/-- What may stand first in a pair. -/
theorem isHexdigit_or_plus {a : Char} :
    (isHexdigit a || a == '+') = true ↔ ∃ x, digit? 16 (unsigned a) = some x := by
  rw [unsigned]
  split
  · next hplus =>
    subst hplus
    exact ⟨fun _ => ⟨0, by decide⟩, fun _ => by decide⟩
  · next hplus =>
    rw [beq_eq_false_iff_ne.mpr hplus, Bool.or_false]
    constructor
    · exact exists_digit?_of_isHexdigit
    · rintro ⟨x, hx⟩
      exact (toLower_of_digit? hx).2.2

/-- The pairs that are read. -/
theorem digitPairs_iff {cs : List Char} :
    digitPairs cs = true ↔ ∃ bytes, HexPairs cs bytes := by
  induction cs using digitPairs.induct with
  | case1 => exact ⟨fun _ => ⟨[], .nil⟩, fun _ => rfl⟩
  | case2 c =>
      simp only [digitPairs, Bool.false_eq_true, false_iff]
      rintro ⟨bytes, hpairs⟩
      cases hpairs
  | case3 a b cs ih =>
      rw [digitPairs, Bool.and_eq_true, Bool.and_eq_true, isHexdigit_or_plus, ih]
      constructor
      · rintro ⟨⟨⟨x, hx⟩, hb⟩, bytes, hpairs⟩
        obtain ⟨y, hy⟩ := exists_digit?_of_isHexdigit hb
        exact ⟨_, .cons hx hy hpairs⟩
      · rintro ⟨bytes, hpairs⟩
        cases hpairs with
        | cons hx hy hrest => exact ⟨⟨⟨_, hx⟩, (toLower_of_digit? hy).2.2⟩, _, hrest⟩

/-- An even number of digits are pairs. -/
theorem digitPairs_of_isHexdigit {cs : List Char} {n : Nat} (hlength : cs.length = 2 * n)
    (hdigits : ∀ c ∈ cs, isHexdigit c = true) : digitPairs cs = true := by
  induction cs using digitPairs.induct generalizing n with
  | case1 => rfl
  | case2 c =>
      simp only [List.length_singleton] at hlength
      omega
  | case3 a b cs ih =>
      have hrest : digitPairs cs = true := by
        apply ih (n := n - 1)
        · simp only [List.length_cons] at hlength
          omega
        · intro c hmem
          exact hdigits c (by simp [hmem])
      simp [digitPairs, hdigits a (by simp), hdigits b (by simp), hrest]

/-- Pairs without a plus sign are digits. -/
theorem isHexdigit_of_digitPairs {cs : List Char} (hpairs : digitPairs cs = true)
    (hplus : '+' ∉ cs) : ∀ c ∈ cs, isHexdigit c = true := by
  induction cs using digitPairs.induct with
  | case1 => simp
  | case2 c => cases hpairs
  | case3 a b cs ih =>
      simp only [List.mem_cons, not_or] at hplus
      rw [digitPairs, Bool.and_eq_true, Bool.and_eq_true, Bool.or_eq_true] at hpairs
      obtain ⟨⟨ha, hb⟩, hrest⟩ := hpairs
      have ha' : isHexdigit a = true := by
        rcases ha with ha | ha
        · exact ha
        · exact absurd (beq_iff_eq.mp ha).symm hplus.1
      intro c hmem
      rcases List.mem_cons.mp hmem with rfl | hmem
      · exact ha'
      · rcases List.mem_cons.mp hmem with rfl | hmem
        · exact hb
        · exact ih hrest hplus.2.2 c hmem

/-- The strings that are read as keys. -/
theorem exists_fromHex_iff {s : String} :
    (∃ key, fromHex s = .ok key) ↔ s.length = 64 ∧ digitPairs s.toList = true := by
  simp only [fromHex_ok_iff, digitPairs_iff]
  constructor
  · rintro ⟨key, hpairs⟩
    refine ⟨?_, _, hpairs⟩
    rw [← String.length_toList, hpairs.length_eq, key.bytes.2]
  · rintro ⟨hlength, bytes, hpairs⟩
    have hbytes : bytes.length = 32 := by
      have htwice := hpairs.length_eq
      rw [String.length_toList] at htwice
      omega
    exact ⟨⟨⟨bytes, hbytes⟩⟩, hpairs⟩

/-- The lower case of a string is that of its characters. -/
theorem toList_toLower (s : String) : s.toLower.toList = s.toList.map Char.toLower :=
  String.toList_map

/-- A string keeps what the text of a key promises unless it has a signed pair. -/
theorem hexKept_iff_not_signedHex (s : String) : HexKept s ↔ ¬ SignedHex s := by
  constructor
  · rintro ⟨hread, -⟩ ⟨hlength, hpairs, hplus⟩
    have hhex := (hread.mp (exists_fromHex_iff.mpr ⟨hlength, hpairs⟩)).2 '+' hplus
    exact absurd hhex (by decide)
  · intro hsigned
    have hplus : s.length = 64 → digitPairs s.toList = true → '+' ∉ s.toList :=
      fun hlength hpairs hmem => hsigned ⟨hlength, hpairs, hmem⟩
    refine ⟨exists_fromHex_iff.trans ⟨?_, ?_⟩, ?_⟩
    · rintro ⟨hlength, hpairs⟩
      exact ⟨hlength, isHexdigit_of_digitPairs hpairs (hplus hlength hpairs)⟩
    · rintro ⟨hlength, hdigits⟩
      exact ⟨hlength, digitPairs_of_isHexdigit (n := 32) (by rw [String.length_toList, hlength])
        hdigits⟩
    · intro key hkey
      obtain ⟨hlength, hpairs⟩ := exists_fromHex_iff.mp ⟨key, hkey⟩
      have hsame : s.toList.map unsigned = s.toList := by
        have hkeep : ∀ c ∈ s.toList, unsigned c = id c := by
          intro c hmem
          rw [unsigned, if_neg, id]
          rintro rfl
          exact hplus hlength hpairs hmem
        rw [List.map_congr_left hkeep, List.map_id]
      apply String.toList_inj.mp
      rw [toHex, String.toList_ofList, (fromHex_ok_iff.mp hkey).flatMap_hexDigits, hsame,
        toList_toLower]

/-- A written key is read back. -/
theorem fromHex_toHex (key : PublicKey) : fromHex key.toHex = .ok key := by
  rw [fromHex_ok_iff, toHex, String.toList_ofList]
  exact hexPairs_hexDigits key.bytes.1

/-- Where a string has its plus signs. -/
def signs (s : String) : List Bool := s.toList.map (· == '+')

/-- A plus sign has no case. -/
theorem toLower_eq_plus_iff {c : Char} : c.toLower = '+' ↔ c = '+' := by
  constructor
  · intro hlower
    by_cases hupper : 'A' ≤ c ∧ c ≤ 'Z'
    · obtain ⟨k, hlow, hhigh, rfl⟩ := exists_ofNat_of_le hupper.1 hupper.2
      simp only [Char.reduceToNat] at hlow hhigh
      revert hlower
      interval_cases k <;> decide
    · have hsame : c.toLower = c := dif_neg hupper
      rwa [hsame] at hlower
  · rintro rfl
    decide

/-- Texts that are written alike without their signs are alike in lower case when their
signs stand at the same places. -/
theorem map_toLower_eq_iff {cs cs' : List Char}
    (hsame : (cs.map unsigned).map Char.toLower = (cs'.map unsigned).map Char.toLower) :
    cs.map Char.toLower = cs'.map Char.toLower ↔ cs.map (· == '+') = cs'.map (· == '+') := by
  induction cs generalizing cs' with
  | nil =>
      cases cs' with
      | nil => simp
      | cons c' cs' => cases hsame
  | cons c cs ih =>
      cases cs' with
      | nil => cases hsame
      | cons c' cs' =>
          simp only [List.map_cons, List.cons.injEq] at hsame ⊢
          have hhead : c.toLower = c'.toLower ↔ (c == '+') = (c' == '+') := by
            have hfirst := hsame.1
            by_cases hplus : c = '+'
            · subst hplus
              simp only [beq_self_eq_true, eq_comm (a := true), beq_iff_eq]
              rw [← toLower_eq_plus_iff (c := c')]
              exact eq_comm
            · by_cases hplus' : c' = '+'
              · subst hplus'
                rw [beq_self_eq_true, beq_iff_eq]
                exact toLower_eq_plus_iff
              · simp only [unsigned, hplus, hplus', if_false] at hfirst
                simp [hfirst, hplus, hplus']
          rw [hhead, ih hsame.2]

/-- Reading keys, exactly: which strings keep the promise; that written keys are read back;
and when two strings that are read as one key are the same string but for case. -/
theorem fromHex_exact (s s' : String) (key : PublicKey) :
    (HexKept s ↔ ¬ SignedHex s) ∧ fromHex key.toHex = .ok key ∧
      (fromHex s = .ok key → fromHex s' = .ok key →
        (s.toLower = s'.toLower ↔ signs s = signs s')) := by
  refine ⟨hexKept_iff_not_signedHex s, fromHex_toHex key, ?_⟩
  intro hkey hkey'
  have hsame := (fromHex_ok_iff.mp hkey).flatMap_hexDigits.symm.trans
    (fromHex_ok_iff.mp hkey').flatMap_hexDigits
  rw [← String.toList_inj, toList_toLower, toList_toLower]
  exact map_toLower_eq_iff hsame

/-- A string of 64 bytes that is not hexadecimal and is read as a key. -/
theorem not_hexKept_signed : ¬ ∀ s, HexKept s := by
  intro hclaim
  have hsigned : SignedHex (String.ofList ('+' :: '1' :: List.replicate 62 '0')) := by
    refine ⟨?_, ?_, ?_⟩
    · rw [String.length_ofList]
      rfl
    · rw [String.toList_ofList]
      decide
    · rw [String.toList_ofList]
      exact List.mem_cons_self
  exact (hexKept_iff_not_signedHex _).mp (hclaim _) hsigned

end PublicKey

end NoPanic
