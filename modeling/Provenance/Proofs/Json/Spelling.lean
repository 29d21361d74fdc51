import Mathlib.Data.List.Basic
import Provenance.Json.Lexer

/-! # Spellings of JSON tokens

    How a token may be written, as the grammar of JSON has it: punctuation and
    literals in one way, a number by its digits, a text piece by piece, where a
    piece is a character as it is, a short escape or an escape of four hexadecimal
    digits.  Blanks stand between tokens (`Spells`), and a number is not followed by
    what would go on with it.

    The lexer cuts a text that is written so into these tokens
    (`Spells.tokensOf_eq`), and the escapes of a text come out as `Piece.decode?`
    says, which looks for the partner of a surrogate and keeps no state. -/

namespace Provenance.Json

/-! ## Numbers -/

/-- Decimal digits, one at least. -/
structure AreDigits (ds : List Nat) : Prop where
  nonempty : ds ≠ []
  decimal : ∀ d ∈ ds, d < 10

/-- Digits as characters. -/
def digitChars (ds : List Nat) : List Char := ds.map Nat.digitChar

/-- The text goes on with no digit. -/
def NoDigit (s : List Char) : Prop := ∀ c ∈ s.head?, digit? c = none

/-- The text goes on with nothing that a number could go on with. -/
def NoNumber (s : List Char) : Prop :=
  ∀ c ∈ s.head?, digit? c = none ∧ c ≠ '.' ∧ c ≠ 'e' ∧ c ≠ 'E'

theorem NoNumber.noDigit {s : List Char} (h : NoNumber s) : NoDigit s :=
  fun c hc => (h c hc).1

/-- Spelling of what follows the point of a number. -/
inductive FractionSpelling : Option (List Nat) → List Char → Prop
  | none : FractionSpelling none []
  | some {ds : List Nat} (h : AreDigits ds) :
      FractionSpelling (some ds) ('.' :: digitChars ds)

/-- Spelling of the sign of an exponent.  A plus may be left out. -/
inductive SignSpelling : Bool → List Char → Prop
  | absent : SignSpelling false []
  | plus : SignSpelling false ['+']
  | minus : SignSpelling true ['-']

/-- Spelling of an exponent. -/
inductive ExponentSpelling : Option (Bool × List Nat) → List Char → Prop
  | none : ExponentSpelling none []
  | some {mark : Char} {below : Bool} {sign : List Char} {ds : List Nat}
      (hmark : mark = 'e' ∨ mark = 'E') (hsign : SignSpelling below sign)
      (h : AreDigits ds) :
      ExponentSpelling (some (below, ds)) (mark :: (sign ++ digitChars ds))

/-- Spelling of a number after its sign.  A zero in front stands alone. -/
inductive UnsignedSpelling (n : NumberText) : List Char → Prop
  | mk {fraction exponent : List Char} (hwhole : AreDigits n.whole)
      (hzero : n.whole.head? = some 0 → n.whole = [0])
      (hfraction : FractionSpelling n.fraction fraction)
      (hexponent : ExponentSpelling n.exponent exponent) :
      UnsignedSpelling n (digitChars n.whole ++ (fraction ++ exponent))

theorem digit?_digitChar {d : Nat} (h : d < 10) : digit? (Nat.digitChar d) = some d := by
  have hall : ∀ d < 10, digit? (Nat.digitChar d) = some d := by decide
  exact hall d h

/-- All digits of a number are read, up to what follows them. -/
theorem digits_digitChars {ds : List Nat} (h : ∀ d ∈ ds, d < 10) {rest : List Char}
    (hrest : NoDigit rest) : digits (digitChars ds ++ rest) = (ds, rest) := by
  induction ds with
  | nil =>
      show digits rest = ([], rest)
      cases rest with
      | nil => rfl
      | cons c rest =>
          have hc : digit? c = none := hrest c rfl
          rw [digits, hc]
  | cons d ds ih =>
      obtain ⟨hd, hds⟩ := List.forall_mem_cons.mp h
      show digits (Nat.digitChar d :: (digitChars ds ++ rest)) = (d :: ds, rest)
      rw [digits, digit?_digitChar hd, ih hds]

/-- A digit is no sign, no point and no mark of an exponent. -/
theorem digitChar_ne {d : Nat} (h : d < 10) :
    Nat.digitChar d ≠ '+' ∧ Nat.digitChar d ≠ '-' := by
  have hall : ∀ d < 10, Nat.digitChar d ≠ '+' ∧ Nat.digitChar d ≠ '-' := by decide
  exact hall d h

theorem exponentText_spelling {n : NumberText} {below : Bool} {sign : List Char}
    {ds : List Nat} (hsign : SignSpelling below sign) (h : AreDigits ds)
    {rest : List Char} (hrest : NoDigit rest) :
    exponentText n (sign ++ (digitChars ds ++ rest))
      = (.number { n with exponent := some (below, ds) }, rest) := by
  have hdigits := digits_digitChars h.decimal hrest
  obtain ⟨d, ds', rfl⟩ := List.exists_cons_of_ne_nil h.nonempty
  cases hsign with
  | absent =>
      obtain ⟨hplus, hminus⟩ := digitChar_ne (h.decimal d List.mem_cons_self)
      rw [List.nil_append, exponentText, hdigits]
      · intro _ heq
        exact hplus (List.cons.inj heq).1
      · intro _ heq
        exact hminus (List.cons.inj heq).1
  | plus => rw [List.singleton_append, exponentText, hdigits]
  | minus => rw [List.singleton_append, exponentText, hdigits]

theorem NoDigit.of_cons {c : Char} {s : List Char} (h : digit? c = none) :
    NoDigit (c :: s) := by
  intro c' hc'
  cases hc'
  exact h

theorem afterFraction_spelling {n : NumberText} (hn : n.exponent = none)
    {exponent : Option (Bool × List Nat)} {s : List Char}
    (hs : ExponentSpelling exponent s) {rest : List Char} (hrest : NoNumber rest) :
    afterFraction n (s ++ rest) = (.number { n with exponent := exponent }, rest) := by
  cases hs with
  | none =>
      have hsame : { n with exponent := none } = n := by rw [← hn]
      rw [List.nil_append, afterFraction, hsame]
      · intro _ heq
        subst heq
        exact (hrest 'e' rfl).2.2.1 rfl
      · intro _ heq
        subst heq
        exact (hrest 'E' rfl).2.2.2 rfl
  | @some mark below sign ds hmark hsign h =>
      have hexponent := exponentText_spelling (n := n) hsign h hrest.noDigit
      rw [List.cons_append, List.append_assoc]
      rcases hmark with rfl | rfl
      · rw [afterFraction, hexponent]
      · rw [afterFraction, hexponent]

/-- What follows the digits of a number is no digit. -/
theorem ExponentSpelling.noDigit {exponent : Option (Bool × List Nat)} {s : List Char}
    (hs : ExponentSpelling exponent s) {rest : List Char} (hrest : NoNumber rest) :
    NoDigit (s ++ rest) := by
  cases hs with
  | none => exact hrest.noDigit
  | some hmark _ _ =>
      rcases hmark with rfl | rfl
      · exact .of_cons (by decide)
      · exact .of_cons (by decide)

theorem afterWhole_spelling {n : NumberText} (hfraction : n.fraction = none)
    (hexponent : n.exponent = none) {fraction : Option (List Nat)}
    {exponent : Option (Bool × List Nat)} {f s : List Char}
    (hf : FractionSpelling fraction f) (hs : ExponentSpelling exponent s)
    {rest : List Char} (hrest : NoNumber rest) :
    afterWhole n (f ++ (s ++ rest))
      = (.number { n with fraction := fraction, exponent := exponent }, rest) := by
  have hend := hs.noDigit hrest
  cases hf with
  | none =>
      have hsame : { n with fraction := none, exponent := exponent }
          = { n with exponent := exponent } := by rw [← hfraction]
      rw [List.nil_append, afterWhole, afterFraction_spelling hexponent hs hrest, hsame]
      intro _ heq
      cases hs with
      | none =>
          rw [List.nil_append] at heq
          subst heq
          exact (hrest '.' rfl).2.1 rfl
      | some hmark _ _ =>
          have hdot := (List.cons.inj heq).1
          subst hdot
          rcases hmark with hmark | hmark
          · exact absurd hmark (by decide)
          · exact absurd hmark (by decide)
  | @some ds h =>
      rw [List.cons_append, afterWhole, digits_digitChars h.decimal hend]
      obtain ⟨d, ds', rfl⟩ := List.exists_cons_of_ne_nil h.nonempty
      show afterFraction { n with fraction := some (d :: ds') } (s ++ rest) = _
      refine afterFraction_spelling ?_ hs hrest
      exact hexponent

/-- What follows the whole digits of a number is no digit. -/
theorem FractionSpelling.noDigit {fraction : Option (List Nat)} {f s : List Char}
    (hf : FractionSpelling fraction f) (hs : NoDigit s) : NoDigit (f ++ s) := by
  cases hf with
  | none => exact hs
  | some h => exact .of_cons (by decide)

theorem numberText_spelling {n : NumberText} {s : List Char}
    (h : UnsignedSpelling n s) {rest : List Char} (hrest : NoNumber rest) :
    numberText n.negative (s ++ rest) = (.number n, rest) := by
  obtain ⟨negative, whole, fraction, exponent⟩ := n
  cases h with
  | @mk f s hwhole hzero hfraction hexponent =>
      have hend := hfraction.noDigit (hexponent.noDigit hrest)
      have hrun := afterWhole_spelling (n := ⟨negative, whole, none, none⟩) rfl rfl
        hfraction hexponent hrest
      rw [List.append_assoc, List.append_assoc, numberText,
        digits_digitChars hwhole.decimal hend]
      match whole, hwhole.nonempty, hzero with
      | [0], _, _ => exact hrun
      | 0 :: d :: ds, _, hzero => cases hzero rfl
      | (k + 1) :: ds, _, _ => exact hrun

/-! ## Texts -/

/-- A unit that leads a pair of surrogates. -/
def IsLeading (n : Nat) : Prop := 0xD800 ≤ n ∧ n ≤ 0xDBFF

/-- A unit that ends a pair of surrogates. -/
def IsTrailing (n : Nat) : Prop := 0xDC00 ≤ n ∧ n ≤ 0xDFFF

instance (n : Nat) : Decidable (IsLeading n) :=
  inferInstanceAs (Decidable (0xD800 ≤ n ∧ n ≤ 0xDBFF))

instance (n : Nat) : Decidable (IsTrailing n) :=
  inferInstanceAs (Decidable (0xDC00 ≤ n ∧ n ≤ 0xDFFF))

/-- The character of a pair of surrogates. -/
def pairChar (leading trailing : Nat) : Char :=
  Char.ofNat (0x10000 + (leading - 0xD800) * 0x400 + (trailing - 0xDC00))

/-- The number of four hexadecimal digits. -/
def hexNumber? (a b c d : Char) : Option Nat := do
  let a ← Hex.value? a
  let b ← Hex.value? b
  let c ← Hex.value? c
  let d ← Hex.value? d
  return ((a * 16 + b) * 16 + c) * 16 + d

/-- A character may stand in a text as it is. -/
def IsPlain (c : Char) : Prop := c ≠ '"' ∧ c ≠ '\\' ∧ 0x20 ≤ c.toNat

instance (c : Char) : Decidable (IsPlain c) :=
  inferInstanceAs (Decidable (c ≠ '"' ∧ c ≠ '\\' ∧ 0x20 ≤ c.toNat))

/-- A piece of a text as written. -/
inductive Piece where
  /-- A character as it is. -/
  | plain (c : Char) (h : IsPlain c)
  /-- A backslash and a letter. -/
  | short (letter c : Char) (h : shortEscape? letter = some c)
  /-- A backslash, `u` and four digits. -/
  | unit (a b c d : Char) (n : Nat) (h : hexNumber? a b c d = some n)

namespace Piece

/-- The characters of a piece. -/
def chars : Piece → List Char
  | plain c _ => [c]
  | short letter _ _ => ['\\', letter]
  | unit a b c d _ _ => ['\\', 'u', a, b, c, d]

/-- The characters that pieces stand for, if each surrogate has its partner. -/
def decode? : List Piece → Option (List Char)
  | [] => some []
  | plain c _ :: ps => (decode? ps).map (c :: ·)
  | short _ c _ :: ps => (decode? ps).map (c :: ·)
  | unit _ _ _ _ n _ :: ps =>
      if IsTrailing n then none
      else if IsLeading n then
        match ps with
        | unit _ _ _ _ m _ :: ps =>
            if IsTrailing m then (decode? ps).map (pairChar n m :: ·) else none
        | _ => none
      else (decode? ps).map (Char.ofNat n :: ·)

/-- The token of a text whose first characters, last one first, are `acc`, from
    what is read of the others. -/
def tokenAfter (acc : List Char) : Option (List Char) → Token
  | some cs => .text (String.ofList (acc.reverse ++ cs))
  | none => .unpairedText

/-- The token of a text with these pieces. -/
def token (ps : List Piece) : Token := tokenAfter [] (decode? ps)

theorem tokenAfter_map (c : Char) (acc : List Char) (read : Option (List Char)) :
    tokenAfter acc (read.map (c :: ·)) = tokenAfter (c :: acc) read := by
  cases read with
  | none => rfl
  | some cs =>
      show Token.text (String.ofList (acc.reverse ++ c :: cs))
        = .text (String.ofList ((c :: acc).reverse ++ cs))
      rw [List.reverse_cons, List.append_assoc, List.singleton_append]

/-- What a piece adds to a draft. -/
def feed (d : Draft) : Piece → Draft
  | plain c _ => d.push c
  | short _ c _ => d.push c
  | unit _ _ _ _ n _ => d.pushUnit n

end Piece

theorem hexWord_unit {a b c d : Char} {n : Nat} (h : hexNumber? a b c d = some n)
    (rest : List Char) : hexWord (a :: b :: c :: d :: rest) = .ok (n, rest) := by
  have hsize : ¬ (a :: b :: c :: d :: rest).foldr (fun c bytes => c.utf8Size + bytes) 0
      < 4 := by
    have ha := a.utf8Size_pos
    have hb := b.utf8Size_pos
    have hc := c.utf8Size_pos
    have hd := d.utf8Size_pos
    simp only [List.foldr_cons]
    omega
  simp only [hexNumber?, Option.bind_eq_bind, Option.bind_eq_some_iff,
    Option.pure_def, Option.some.injEq] at h
  obtain ⟨x, hx, y, hy, z, hz, u, hu, rfl⟩ := h
  rw [hexWord, if_neg hsize]
  simp only [hx, hy, hz, hu]

theorem quoted_piece (d : Draft) (p : Piece) (rest : List Char) :
    quoted d (p.chars ++ rest) = quoted (p.feed d) rest := by
  cases p with
  | plain c h =>
      obtain ⟨hquote, hslash, hraw⟩ := h
      show quoted d (c :: rest) = quoted (d.push c) rest
      rw [quoted, if_neg (Nat.not_lt.mpr hraw)]
      · exact hquote
      · exact fun heq => absurd heq hslash
      · exact fun _ heq => absurd heq hslash
      · exact fun _ _ heq => absurd heq hslash
  | short letter c h =>
      show quoted d ('\\' :: letter :: rest) = quoted (d.push c) rest
      rw [quoted, h]
      rintro rfl
      cases h
  | unit a b c d' n h =>
      show quoted d ('\\' :: 'u' :: a :: b :: c :: d' :: rest)
        = quoted (d.pushUnit n) rest
      rw [quoted]
      split
      · rename_i heq
        rw [hexWord_unit h] at heq
        cases heq
        rfl
      · rename_i heq
        rw [hexWord_unit h] at heq
        cases heq

/-- A text is read piece by piece, up to its closing quote. -/
theorem quoted_pieces (d : Draft) (ps : List Piece) (rest : List Char) :
    quoted d (ps.flatMap Piece.chars ++ '"' :: rest)
      = ((ps.foldl Piece.feed d).close, rest) := by
  induction ps generalizing d with
  | nil =>
      show quoted d ('"' :: rest) = (d.close, rest)
      rw [quoted]
  | cons p ps ih => rw [List.flatMap_cons, List.append_assoc, quoted_piece, ih]; rfl

namespace Draft

/-- A flaw stays. -/
theorem feed_of_error {d : Draft} {f : Flaw} (h : d.read = .error f) (p : Piece) :
    ∃ f, (p.feed d).read = .error f := by
  obtain ⟨read, waiting⟩ := d
  obtain rfl : read = .error f := h
  cases p with
  | plain c _ => cases waiting <;> exact ⟨f, rfl⟩
  | short _ c _ => cases waiting <;> exact ⟨f, rfl⟩
  | unit _ _ _ _ n _ =>
      show ∃ f', (pushUnit ⟨.error f, waiting⟩ n).read = .error f'
      rw [pushUnit]
      cases waiting with
      | none =>
          dsimp only
          split
          · exact ⟨f, rfl⟩
          · split <;> exact ⟨f, rfl⟩
      | some first =>
          dsimp only
          split <;> exact ⟨f, rfl⟩

theorem close_of_error {d : Draft} {f : Flaw} (h : d.read = .error f) (ps : List Piece) :
    (ps.foldl Piece.feed d).close = .unpairedText := by
  induction ps generalizing d f with
  | nil =>
      obtain ⟨read, waiting⟩ := d
      obtain rfl : read = .error f := h
      cases waiting <;> rfl
  | cons p ps ih =>
      obtain ⟨f', h'⟩ := feed_of_error h p
      exact ih h'

variable {acc : List Char} {n m : Nat}

theorem pushUnit_of_trailing (h : IsTrailing n) :
    pushUnit ⟨.ok acc, none⟩ n = ⟨.error .form, none⟩ :=
  if_pos h

theorem pushUnit_of_leading (h : ¬IsTrailing n) (h' : IsLeading n) :
    pushUnit ⟨.ok acc, none⟩ n = ⟨.ok acc, some n⟩ :=
  (if_neg h).trans (if_pos h')

theorem pushUnit_of_other (h : ¬IsTrailing n) (h' : ¬IsLeading n) :
    pushUnit ⟨.ok acc, none⟩ n = ⟨.ok (Char.ofNat n :: acc), none⟩ :=
  (if_neg h).trans (if_neg h')

theorem pushUnit_of_pair (h : IsTrailing m) :
    pushUnit ⟨.ok acc, some n⟩ m = ⟨.ok (pairChar n m :: acc), none⟩ :=
  if_pos h

theorem pushUnit_of_unpaired (h : ¬IsTrailing m) :
    pushUnit ⟨.ok acc, some n⟩ m = ⟨.error .form, none⟩ :=
  if_neg h

/-- What the pieces of a text come to after some characters.  By induction on the
    decoding, which takes the two units of a pair at once. -/
theorem close_feed (ps : List Piece) (acc : List Char) :
    (ps.foldl Piece.feed ⟨.ok acc, none⟩).close
      = Piece.tokenAfter acc (Piece.decode? ps) := by
  fun_induction Piece.decode? ps generalizing acc with
  | case1 =>
      show Token.text (String.ofList acc.reverse)
        = .text (String.ofList (acc.reverse ++ []))
      rw [List.append_nil]
  | case2 c _ ps ih => exact (ih (c :: acc)).trans (Piece.tokenAfter_map c acc _).symm
  | case3 _ c _ ps ih => exact (ih (c :: acc)).trans (Piece.tokenAfter_map c acc _).symm
  | case4 _ _ _ _ n _ ps htrailing =>
      show (ps.foldl Piece.feed (pushUnit ⟨.ok acc, none⟩ n)).close = .unpairedText
      rw [pushUnit_of_trailing htrailing]
      exact close_of_error rfl ps
  | case5 _ _ _ _ n _ htrailing hleading _ _ _ _ m _ ps hpair ih =>
      show (ps.foldl Piece.feed (pushUnit (pushUnit ⟨.ok acc, none⟩ n) m)).close = _
      rw [pushUnit_of_leading htrailing hleading, pushUnit_of_pair hpair, ih,
        Piece.tokenAfter_map]
  | case6 _ _ _ _ n _ htrailing hleading _ _ _ _ m _ ps hpair =>
      show (ps.foldl Piece.feed (pushUnit (pushUnit ⟨.ok acc, none⟩ n) m)).close
        = .unpairedText
      rw [pushUnit_of_leading htrailing hleading, pushUnit_of_unpaired hpair]
      exact close_of_error rfl ps
  | case7 _ _ _ _ n _ ps htrailing hleading hnext =>
      show (ps.foldl Piece.feed (pushUnit ⟨.ok acc, none⟩ n)).close = .unpairedText
      rw [pushUnit_of_leading htrailing hleading]
      cases ps with
      | nil => rfl
      | cons p ps =>
          cases p with
          | plain c h => exact close_of_error (f := .form) rfl ps
          | short letter c h => exact close_of_error (f := .form) rfl ps
          | unit a b c d m h => exact (hnext a b c d m h ps rfl).elim
  | case8 _ _ _ _ n _ ps htrailing hleading ih =>
      show (ps.foldl Piece.feed (pushUnit ⟨.ok acc, none⟩ n)).close = _
      rw [pushUnit_of_other htrailing hleading, ih, Piece.tokenAfter_map]

end Draft

/-- A text is read as its pieces say, up to its closing quote. -/
theorem quoted_spelling (ps : List Piece) (rest : List Char) :
    quoted .empty (ps.flatMap Piece.chars ++ '"' :: rest) = (Piece.token ps, rest) := by
  rw [quoted_pieces, Draft.empty, Draft.close_feed, Piece.token]

/-! ## Tokens -/

/-- Spelling of a token. -/
inductive TokenSpelling : Token → List Char → Prop
  | openObject : TokenSpelling .openObject ['\x7b']
  | closeObject : TokenSpelling .closeObject ['\x7d']
  | openArray : TokenSpelling .openArray ['[']
  | closeArray : TokenSpelling .closeArray [']']
  | colon : TokenSpelling .colon [':']
  | comma : TokenSpelling .comma [',']
  | null : TokenSpelling .null ['n', 'u', 'l', 'l']
  | boolTrue : TokenSpelling (.boolean true) ['t', 'r', 'u', 'e']
  | boolFalse : TokenSpelling (.boolean false) ['f', 'a', 'l', 's', 'e']
  | natural {n : NumberText} {w : List Char} (hsign : n.negative = false)
      (h : UnsignedSpelling n w) : TokenSpelling (.number n) w
  | minus {n : NumberText} {w : List Char} (hsign : n.negative = true)
      (h : UnsignedSpelling n w) : TokenSpelling (.number n) ('-' :: w)
  | text (ps : List Piece) :
      TokenSpelling (Piece.token ps) ('"' :: (ps.flatMap Piece.chars ++ ['"']))

/-- A text without escapes is spelled as it is. -/
theorem TokenSpelling.text_of_isPlain (cs : List Char)
    (h : cs.all (fun c => decide (IsPlain c)) = true) :
    TokenSpelling (.text (String.ofList cs)) ('"' :: (cs ++ ['"'])) := by
  have hpieces : ∃ ps : List Piece, Piece.decode? ps = some cs
      ∧ ps.flatMap Piece.chars = cs := by
    induction cs with
    | nil => exact ⟨[], rfl, rfl⟩
    | cons c cs ih =>
        rw [List.all_cons, Bool.and_eq_true, decide_eq_true_eq] at h
        obtain ⟨ps, hdecode, hchars⟩ := ih h.2
        refine ⟨.plain c h.1 :: ps, ?_, ?_⟩
        · rw [Piece.decode?, hdecode]
          rfl
        · rw [List.flatMap_cons, hchars]
          rfl
  obtain ⟨ps, hdecode, hchars⟩ := hpieces
  have hspelled := TokenSpelling.text ps
  rw [Piece.token, hdecode, hchars] at hspelled
  exact hspelled

/-- The text after a token does not go on with it. -/
def Token.EndsBefore : Token → List Char → Prop
  | .number _, s => NoNumber s
  | _, _ => True

/-- A number starts with a digit. -/
theorem UnsignedSpelling.exists_cons {n : NumberText} {w : List Char}
    (h : UnsignedSpelling n w) : ∃ d w', d < 10 ∧ w = Nat.digitChar d :: w' := by
  cases h with
  | mk hwhole _ _ _ =>
      obtain ⟨d, ds, hds⟩ := List.exists_cons_of_ne_nil hwhole.nonempty
      have hd : d ∈ n.whole := hds ▸ List.mem_cons_self
      exact ⟨d, _, hwhole.decimal d hd, by rw [hds]; rfl⟩

/-- A digit starts a number. -/
theorem token_digitChar {d : Nat} (h : d < 10) (rest : List Char) :
    token (Nat.digitChar d) rest = numberText false (Nat.digitChar d :: rest) := by
  have hall : ∀ d < 10, punctuation? (Nat.digitChar d) = none
      ∧ Nat.digitChar d ≠ '"' ∧ Nat.digitChar d ≠ '-' ∧ Nat.digitChar d ≠ 'n'
      ∧ Nat.digitChar d ≠ 't' ∧ Nat.digitChar d ≠ 'f' := by decide
  obtain ⟨hpunct, hquote, hminus, hn, ht, hf⟩ := hall d h
  have hdigit : (digit? (Nat.digitChar d)).isSome = true := by
    rw [digit?_digitChar h]
    rfl
  rw [token, hpunct]
  dsimp only
  rw [if_neg hquote, if_neg hminus, if_neg hn, if_neg ht, if_neg hf, if_pos hdigit]

/-- The lexer cuts off a token as it is spelled. -/
theorem TokenSpelling.token_eq {t : Token} {w rest : List Char} (h : TokenSpelling t w)
    (hend : t.EndsBefore rest) :
    ∃ c w', w = c :: w' ∧ isBlank c = false ∧ token c (w' ++ rest) = (t, rest) := by
  cases h with
  | openObject => exact ⟨_, _, rfl, by decide, rfl⟩
  | closeObject => exact ⟨_, _, rfl, by decide, rfl⟩
  | openArray => exact ⟨_, _, rfl, by decide, rfl⟩
  | closeArray => exact ⟨_, _, rfl, by decide, rfl⟩
  | colon => exact ⟨_, _, rfl, by decide, rfl⟩
  | comma => exact ⟨_, _, rfl, by decide, rfl⟩
  | null => exact ⟨_, _, rfl, by decide, rfl⟩
  | boolTrue => exact ⟨_, _, rfl, by decide, rfl⟩
  | boolFalse => exact ⟨_, _, rfl, by decide, rfl⟩
  | @natural n w hsign h =>
      obtain ⟨d, w', hd, rfl⟩ := h.exists_cons
      have hall : ∀ d < 10, isBlank (Nat.digitChar d) = false := by decide
      refine ⟨_, _, rfl, hall d hd, ?_⟩
      rw [token_digitChar hd, ← hsign]
      exact numberText_spelling h hend
  | @minus n w hsign h =>
      refine ⟨_, _, rfl, by decide, ?_⟩
      show numberText true (w ++ rest) = (.number n, rest)
      rw [← hsign]
      exact numberText_spelling h hend
  | text ps =>
      refine ⟨_, _, rfl, by decide, ?_⟩
      show quoted .empty (ps.flatMap Piece.chars ++ ['"'] ++ rest) = (Piece.token ps, rest)
      rw [List.append_assoc, List.singleton_append, quoted_spelling]

/-- Spelling of tokens at the start of a text, with blanks before and between
    them, up to the rest of the text. -/
inductive Spells : List Char → List Token → List Char → Prop
  | done (rest : List Char) : Spells rest [] rest
  | blank {c : Char} {s rest : List Char} {ts : List Token} (hc : isBlank c = true)
      (h : Spells s ts rest) : Spells (c :: s) ts rest
  | token {t : Token} {w s rest : List Char} {ts : List Token} (hw : TokenSpelling t w)
      (hend : t.EndsBefore s) (h : Spells s ts rest) : Spells (w ++ s) (t :: ts) rest

/-- The lexer finds the tokens that a text spells. -/
theorem Spells.tokensOf_eq {s rest : List Char} {ts : List Token} (h : Spells s ts rest) :
    tokensOf s = ts ++ tokensOf rest := by
  induction h with
  | done rest => rfl
  | @blank c s rest ts hc h ih => rw [tokensOf, if_pos hc, ih]
  | @token t w s rest ts hw hend h ih =>
      obtain ⟨c, w', rfl, hblank, htoken⟩ := hw.token_eq hend
      have hc : ¬ isBlank c = true := by
        rw [hblank]
        decide
      rw [List.cons_append, tokensOf, if_neg hc, htoken, ih, List.cons_append]

end Provenance.Json
