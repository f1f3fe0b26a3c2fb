/-
MmorpgServer.Lib.DecimalText — numbers as decimal text.

`printG p` is `printf`'s `%.pg`: `p` significant digits, rounded half to
even, in fixed notation if the exponent is between -4 and `p` and in
scientific notation otherwise, without trailing zeros. `printF k` is
`%.kf`: `k` decimal places. `JsonNumber` is the grammar of numbers in
JSON, and what either prints is one (`jsonNumber_printG`,
`jsonNumber_printF`). `readDecimal` reads fixed notation.

`printD` is `%d` and `readD` is `atoi`; `readD_printD` says that an `int`
survives the two.
-/
import Mathlib.Data.Int.Log
import Mathlib.Data.List.DropRight
import Mathlib.Data.Rat.Floor
import Mathlib.Tactic.IntervalCases

namespace MmorpgServer.Lib

/-! ## Numbers in JSON -/

/-- One digit or more. -/
def IsDigits (ds : List Char) : Prop := ds ≠ [] ∧ ∀ c ∈ ds, c.isDigit = true

/-- `0`, or digits that do not begin with one. -/
def IsJsonInt (ds : List Char) : Prop := ds = ['0'] ∨ IsDigits ds ∧ ds.head? ≠ some '0'

/-- A point and digits, or nothing. -/
def IsJsonFrac (frac : List Char) : Prop := frac = [] ∨ ∃ ds, frac = '.' :: ds ∧ IsDigits ds

/-- An `e`, a sign or none, and digits; or nothing. -/
def IsJsonExp (exp : List Char) : Prop :=
  exp = [] ∨ ∃ e sign ds, exp = e :: (sign ++ ds) ∧ (e = 'e' ∨ e = 'E') ∧
    (sign = [] ∨ sign = ['+'] ∨ sign = ['-']) ∧ IsDigits ds

/-- A number in JSON. -/
def JsonNumber (text : List Char) : Prop :=
  ∃ sign int frac exp, text = sign ++ (int ++ (frac ++ exp)) ∧ (sign = [] ∨ sign = ['-']) ∧
    IsJsonInt int ∧ IsJsonFrac frac ∧ IsJsonExp exp

theorem IsJsonInt.isDigits {ds : List Char} (h : IsJsonInt ds) : IsDigits ds := by
  rcases h with rfl | h
  · exact ⟨by simp, by simp⟩
  · exact h.1

/-- A number begins with a digit, or with a sign and a digit. -/
theorem JsonNumber.begins {text : List Char} (h : JsonNumber text) :
    ∃ c rest, (text = c :: rest ∨ text = '-' :: c :: rest) ∧ c.isDigit = true := by
  obtain ⟨sign, int, frac, exp, rfl, hsign, hint, -, -⟩ := h
  obtain ⟨hne, hdigits⟩ := hint.isDigits
  obtain ⟨c, ds, rfl⟩ := List.exists_cons_of_ne_nil hne
  refine ⟨c, ds ++ (frac ++ exp), ?_, hdigits c List.mem_cons_self⟩
  rcases hsign with rfl | rfl
  · exact Or.inl rfl
  · exact Or.inr rfl

/-- Text that begins with something else is no number. -/
theorem not_jsonNumber_cons {c : Char} {rest : List Char} (hsign : c ≠ '-')
    (hdigit : c.isDigit = false) : ¬ JsonNumber (c :: rest) := by
  intro h
  obtain ⟨d, rest', heq | heq, hd⟩ := h.begins
  · cases heq
    rw [hd] at hdigit
    cases hdigit
  · cases heq
    exact hsign rfl

theorem not_jsonNumber_sign {c : Char} {rest : List Char} (hdigit : c.isDigit = false) :
    ¬ JsonNumber ('-' :: c :: rest) := by
  intro h
  obtain ⟨d, rest', heq | heq, hd⟩ := h.begins
  · cases heq
    cases hd
  · cases heq
    rw [hd] at hdigit
    cases hdigit

/-! ## Printing -/

/-- The last `k` decimal digits of a number. -/
def fracDigits : Nat → Nat → List Char
  | 0, _ => []
  | k + 1, n => fracDigits k (n / 10) ++ [(n % 10).digitChar]

/-- `n / 10 ^ k` with `k` decimal places, less the zeros at the end. -/
def printFixed (n k : Nat) : List Char :=
  let frac := (fracDigits k (n % 10 ^ k)).rdropWhile fun c => c = '0'
  Nat.toDigits 10 (n / 10 ^ k) ++ if frac = [] then [] else '.' :: frac

/-- The exponent of scientific notation, of two digits or more. -/
def printExp (x : Int) : List Char :=
  'e' :: (if x < 0 then '-' else '+') ::
    ((if x.natAbs < 10 then ['0'] else []) ++ Nat.toDigits 10 x.natAbs)

/-- Round half to even. -/
def roundHalfEven (q : ℚ) : Nat :=
  let n := ⌊q⌋.toNat
  if q - n < 1 / 2 then n else if 1 / 2 < q - n then n + 1 else if n % 2 = 0 then n else n + 1

/-- `p` significant digits and the exponent: `|q|` is about
`n * 10 ^ (x + 1 - p)`. -/
def significant (p : Nat) (q : ℚ) : Nat × Int :=
  let x := Int.log 10 |q|
  let n := roundHalfEven (|q| * 10 ^ (p - 1 - x))
  if n = 10 ^ p then (10 ^ (p - 1), x + 1) else (n, x)

/-- `%.{p}g`. -/
def printG (p : Nat) (q : ℚ) : List Char :=
  if q = 0 then ['0']
  else
    let s := significant p q
    (if q < 0 then ['-'] else []) ++
      if -4 ≤ s.2 ∧ s.2 < p then printFixed s.1 (p - 1 - s.2).toNat
      else printFixed s.1 (p - 1) ++ printExp s.2

/-- `%.kf`, for `k` decimal places and one at least. -/
def printF (k : Nat) (q : ℚ) : List Char :=
  let n := roundHalfEven (|q| * 10 ^ k)
  (if q < 0 then ['-'] else []) ++
    (Nat.toDigits 10 (n / 10 ^ k) ++ '.' :: fracDigits k (n % 10 ^ k))

/-- The number in fixed notation at the start of a text. -/
def readDecimal (text : List Char) : ℚ :=
  let read (text : List Char) : ℚ :=
    let int := text.takeWhile Char.isDigit
    let frac := ((text.dropWhile Char.isDigit).drop 1).takeWhile Char.isDigit
    Nat.ofDigitChars 10 int 0 + Nat.ofDigitChars 10 frac 0 / 10 ^ frac.length
  match text with
  | '-' :: text => -read text
  | text => read text

example : readDecimal (printF 6 (-1209 / 40)) = -1209 / 40 := by decide +kernel

example : [0, 1 / 3, -1209 / 40, 2 ^ 40, 1 / 2 ^ 20].map (fun q => String.ofList (printG 9 q)) =
    ["0", "0.333333333", "-30.225", "1.09951163e+12", "9.53674316e-07"] := by decide +kernel

/-! ## What is printed -/

theorem isDigit_digitChar {n : Nat} (h : n < 10) : n.digitChar.isDigit = true := by
  interval_cases n <;> rfl

theorem isDigits_toDigits (n : Nat) : IsDigits (Nat.toDigits 10 n) :=
  ⟨Nat.toDigits_ne_nil, fun _ hc => Nat.isDigit_of_mem_toDigits (by decide) (by decide) hc⟩

theorem head?_toDigits {n : Nat} (h : n ≠ 0) : (Nat.toDigits 10 n).head? ≠ some '0' := by
  induction n using Nat.strong_induction_on with
  | _ n ih =>
    by_cases hn : n < 10
    · rw [Nat.toDigits_of_lt_base hn]
      interval_cases n <;> simp_all
    · have hlt : n / 10 < n := by omega
      have hhead := ih (n / 10) hlt (by omega)
      rw [Nat.toDigits_of_base_le (by decide) (by omega)]
      rwa [List.head?_append_of_ne_nil _ Nat.toDigits_ne_nil]

/-- A printed natural number has no leading zero. -/
theorem isJsonInt_toDigits (n : Nat) : IsJsonInt (Nat.toDigits 10 n) := by
  by_cases h : n = 0
  · subst h
    exact Or.inl (Nat.toDigits_zero 10)
  · exact Or.inr ⟨isDigits_toDigits n, head?_toDigits h⟩

theorem isDigit_of_mem_fracDigits {k n : Nat} {c : Char} (h : c ∈ fracDigits k n) :
    c.isDigit = true := by
  induction k generalizing n with
  | zero => cases h
  | succ k ih =>
    rcases List.mem_append.mp h with h | h
    · exact ih h
    · rw [List.mem_singleton] at h
      rw [h]
      exact isDigit_digitChar (Nat.mod_lt _ (by decide))

/-- Fixed notation: an integer and a fraction. -/
theorem printFixed_eq (n k : Nat) :
    ∃ int frac, printFixed n k = int ++ frac ∧ IsJsonInt int ∧ IsJsonFrac frac := by
  refine ⟨_, _, rfl, isJsonInt_toDigits _, ?_⟩
  split
  · exact Or.inl rfl
  · rename_i hne
    refine Or.inr ⟨_, rfl, hne, fun c hc => ?_⟩
    exact isDigit_of_mem_fracDigits ((List.rdropWhile_prefix _ _).subset hc)

theorem isJsonExp_printExp (x : Int) : IsJsonExp (printExp x) := by
  obtain ⟨hne, hdigits⟩ := isDigits_toDigits x.natAbs
  refine Or.inr ⟨'e', [if x < 0 then '-' else '+'], _, rfl, Or.inl rfl, ?_, ?_, ?_⟩
  · split <;> simp
  · simp [hne]
  · intro c hc
    rcases List.mem_append.mp hc with hc | hc
    · split at hc
      · rw [List.mem_singleton] at hc
        rw [hc]
        rfl
      · cases hc
    · exact hdigits c hc

/-- **What `%g` prints of a finite number is a number in JSON.** -/
theorem jsonNumber_printG (p : Nat) (q : ℚ) : JsonNumber (printG p q) := by
  unfold printG
  split
  · exact ⟨[], ['0'], [], [], rfl, Or.inl rfl, Or.inl rfl, Or.inl rfl, Or.inl rfl⟩
  · have hsign : (if q < 0 then ['-'] else []) = [] ∨ (if q < 0 then ['-'] else []) = ['-'] := by
      split <;> simp
    simp only
    generalize (if q < 0 then ['-'] else []) = sign at *
    split
    · obtain ⟨int, frac, heq, hint, hfrac⟩ := printFixed_eq (significant p q).1
        (p - 1 - (significant p q).2).toNat
      exact ⟨_, int, frac, [], by rw [heq, List.append_nil], hsign, hint, hfrac, Or.inl rfl⟩
    · obtain ⟨int, frac, heq, hint, hfrac⟩ := printFixed_eq (significant p q).1 (p - 1)
      exact ⟨_, int, frac, _, by rw [heq, List.append_assoc], hsign, hint, hfrac,
        isJsonExp_printExp _⟩

theorem fracDigits_ne_nil {k : Nat} (hk : k ≠ 0) (n : Nat) : fracDigits k n ≠ [] := by
  cases k with
  | zero => exact absurd rfl hk
  | succ k => simp [fracDigits]

/-- So is what `%f` prints. -/
theorem jsonNumber_printF {k : Nat} (hk : k ≠ 0) (q : ℚ) : JsonNumber (printF k q) := by
  refine ⟨_, _, _, [], by rw [List.append_nil]; rfl, ?_, isJsonInt_toDigits _, ?_, Or.inl rfl⟩
  · split <;> simp
  · exact Or.inr ⟨_, rfl, fracDigits_ne_nil hk _, fun c hc => isDigit_of_mem_fracDigits hc⟩

/-! ## Integers -/

/-- `%d`. -/
def printD (n : Int) : List Char := (if n < 0 then ['-'] else []) ++ Nat.toDigits 10 n.natAbs

/-- `isspace`: the blank, and the controls from tab to carriage return. -/
def isSpace (c : Char) : Bool := c = ' ' || (9 ≤ c.toNat && c.toNat ≤ 13)

/-- The value of the digits at the start of a text. -/
def leadingDigits (text : List Char) : Nat := Nat.ofDigitChars 10 (text.takeWhile Char.isDigit) 0

/-- `atoi`, for an `int` of 32 bits: blanks, a sign or none, and digits up
to the first other character. A value that does not fit is cut to the
nearest that does. -/
def readD (text : List Char) : Int :=
  let value : Int :=
    match text.dropWhile isSpace with
    | '-' :: text => -leadingDigits text
    | '+' :: text => leadingDigits text
    | text => leadingDigits text
  max (-2 ^ 31) (min (2 ^ 31 - 1) value)

example : ["0", " 42hp", "-7", "+9", "99999999999", "-99999999999", "hp"].map
    (fun str => readD str.toList) = [0, 42, -7, 9, 2147483647, -2147483648, 0] := by
  decide +kernel

theorem leadingDigits_toDigits (n : Nat) : leadingDigits (Nat.toDigits 10 n) = n := by
  have hall : (Nat.toDigits 10 n).takeWhile Char.isDigit = Nat.toDigits 10 n :=
    List.takeWhile_eq_self_iff.mpr (isDigits_toDigits n).2
  rw [leadingDigits, hall, Nat.ofDigitChars_ten_toDigits]

/-- A digit is neither a blank nor a sign. -/
theorem not_space_of_isDigit {c : Char} (h : c.isDigit = true) :
    isSpace c = false ∧ c ≠ '-' ∧ c ≠ '+' := by
  have hrange : 48 ≤ c.toNat ∧ c.toNat ≤ 57 := by
    simpa [Char.isDigit, UInt32.le_iff_toNat_le] using h
  refine ⟨?_, ?_, ?_⟩
  · have hne : c ≠ ' ' := by
      rintro rfl
      exact absurd hrange (by decide)
    have hcontrol : ¬ c.toNat ≤ 13 := by omega
    simp [isSpace, hne, hcontrol]
  · rintro rfl
    exact absurd hrange (by decide)
  · rintro rfl
    exact absurd hrange (by decide)

/-- **An `int`, printed and read back.** -/
theorem readD_printD {n : Int} (h : -2 ^ 31 ≤ n ∧ n < 2 ^ 31) : readD (printD n) = n := by
  obtain ⟨c, ds, hds⟩ := List.exists_cons_of_ne_nil (isDigits_toDigits n.natAbs).1
  have hvalue := leadingDigits_toDigits n.natAbs
  obtain ⟨hspace, hminus, hplus⟩ :=
    not_space_of_isDigit ((isDigits_toDigits n.natAbs).2 c (hds ▸ List.mem_cons_self))
  rw [hds] at hvalue
  unfold readD printD
  by_cases hneg : n < 0
  · have hblank : isSpace '-' = false := by decide
    simp only [hneg, if_true, hds, List.cons_append, List.nil_append,
      List.dropWhile_cons_of_neg, hblank, Bool.false_eq_true, not_false_eq_true, hvalue]
    omega
  · simp only [hneg, if_false, hds, List.nil_append, List.dropWhile_cons_of_neg, hspace,
      Bool.false_eq_true, not_false_eq_true]
    split
    · rename_i heq
      exact absurd (List.cons.inj heq).1 hminus
    · rename_i heq
      exact absurd (List.cons.inj heq).1 hplus
    · rw [hvalue]
      omega

end MmorpgServer.Lib
