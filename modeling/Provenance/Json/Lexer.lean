import Provenance.Json.Token
import Provenance.Text.Hex

/-! # From characters to tokens

    `tokens` cuts a text into its tokens, by the grammar of JSON without
    extensions.  A broken token is the last one: whatever its place, reading stops
    there, as the library does at the first problem. -/

namespace Provenance.Json

/-- The four blanks of the format. -/
def isBlank (c : Char) : Bool :=
  c == ' ' || c == '\n' || c == '\t' || c == '\r'

/-- Value of a decimal digit. -/
def digit? (c : Char) : Option Nat :=
  if '0' ≤ c ∧ c ≤ '9' then some (c.toNat - '0'.toNat) else none

/-- The digits at the start of a text, and the rest. -/
def digits : List Char → List Nat × List Char
  | [] => ([], [])
  | c :: rest =>
      match digit? c with
      | some d => (d :: (digits rest).1, (digits rest).2)
      | none => ([], c :: rest)

theorem digits_length (s : List Char) : (digits s).2.length ≤ s.length := by
  induction s with
  | nil => exact Nat.le_refl _
  | cons c rest ih =>
      unfold digits
      cases digit? c with
      | none => exact Nat.le_refl _
      | some d => exact Nat.le_succ_of_le ih

/-! ## Numbers -/

/-- A number that stops where a digit has to follow: the end of the text, or
    another character. -/
def stopped (rest : List Char) : Token :=
  .broken (if rest.isEmpty then .ending else .form) .form

/-- The exponent of a number, after its mark. -/
def exponentText (number : NumberText) (s : List Char) : Token × List Char :=
  let (negative, unsigned) :=
    match s with
    | '+' :: rest => (false, rest)
    | '-' :: rest => (true, rest)
    | rest => (false, rest)
  match digits unsigned with
  | ([], rest) => (stopped rest, [])
  | (ds, rest) =>
      (.number { number with exponent := some (negative, ds) }, rest)

/-- What may follow the digits of a number: its exponent. -/
def afterFraction (number : NumberText) (s : List Char) : Token × List Char :=
  match s with
  | 'e' :: rest => exponentText number rest
  | 'E' :: rest => exponentText number rest
  | rest => (.number number, rest)

/-- What may follow the whole digits of a number. -/
def afterWhole (number : NumberText) (s : List Char) : Token × List Char :=
  match s with
  | '.' :: rest =>
      match digits rest with
      | ([], rest) => (stopped rest, [])
      | (ds, rest) => afterFraction { number with fraction := some ds } rest
  | rest => afterFraction number rest

/-- A number after its sign.  A zero in front has no digit after it. -/
def numberText (negative : Bool) (s : List Char) : Token × List Char :=
  match digits s with
  | ([], rest) => (stopped rest, [])
  | (0 :: _ :: _, _) => (.broken .form .form, [])
  | (ds, rest) => afterWhole ⟨negative, ds, none, none⟩ rest

theorem exponentText_length (n : NumberText) (s : List Char) :
    (exponentText n s).2.length ≤ s.length := by
  unfold exponentText
  have key : ∀ (b : Bool) (u : List Char), u.length ≤ s.length →
      ((match digits u with
        | ([], rest) => (stopped rest, [])
        | (ds, rest) => (Token.number { n with exponent := some (b, ds) }, rest)
        : Token × List Char)).2.length ≤ s.length := by
    intro b u hu
    have hd := digits_length u
    cases h : digits u with
    | mk ds rest =>
        rw [h] at hd
        cases ds with
        | nil => exact Nat.zero_le _
        | cons d ds => exact Nat.le_trans hd hu
  split
  rename_i negative unsigned heq
  refine key negative unsigned ?_
  split at heq <;> cases heq
  · exact Nat.le_succ _
  · exact Nat.le_succ _
  · exact Nat.le_refl _

theorem afterFraction_length (n : NumberText) (s : List Char) :
    (afterFraction n s).2.length ≤ s.length := by
  unfold afterFraction
  split
  · exact Nat.le_succ_of_le (exponentText_length _ _)
  · exact Nat.le_succ_of_le (exponentText_length _ _)
  · exact Nat.le_refl _

theorem afterWhole_length (n : NumberText) (s : List Char) :
    (afterWhole n s).2.length ≤ s.length := by
  unfold afterWhole
  split
  · rename_i rest
    have hd := digits_length rest
    cases h : digits rest with
    | mk ds rest' =>
        rw [h] at hd
        cases ds with
        | nil => exact Nat.zero_le _
        | cons d ds =>
            exact Nat.le_succ_of_le
              (Nat.le_trans (afterFraction_length _ _) hd)
  · exact afterFraction_length _ _

theorem numberText_length (b : Bool) (s : List Char) :
    (numberText b s).2.length ≤ s.length := by
  unfold numberText
  have hd := digits_length s
  split
  · exact Nat.zero_le _
  · exact Nat.zero_le _
  · rename_i ds rest _ _ h
    rw [h] at hd
    exact Nat.le_trans (afterWhole_length _ _) hd

/-! ## Texts -/

/-- Four hexadecimal digits. -/
def hexWord (s : List Char) : Except Flaw (Nat × List Char) :=
  if s.foldr (fun c bytes => c.utf8Size + bytes) 0 < 4 then .error .ending
  else
    match s with
    | a :: b :: c :: d :: rest =>
        match Hex.value? a, Hex.value? b, Hex.value? c, Hex.value? d with
        | some a, some b, some c, some d =>
            .ok (((a * 16 + b) * 16 + c) * 16 + d, rest)
        | _, _, _, _ => .error .form
    | _ => .error .form

theorem hexWord_length {s rest : List Char} {n : Nat}
    (h : hexWord s = .ok (n, rest)) : rest.length < s.length := by
  unfold hexWord at h
  split at h
  · cases h
  · split at h
    · split at h
      · cases h
        simp only [List.length_cons]
        omega
      · cases h
    · cases h

/-- What has been read of a text: its characters, last one first, or the first
    flaw that counts when the text is read. -/
structure Draft where
  read : Except Flaw (List Char)
  /-- A leading surrogate that waits for its partner. -/
  waiting : Option Nat

namespace Draft

/-- Nothing read yet. -/
def empty : Draft := ⟨.ok [], none⟩

/-- A flaw, unless there was one before. -/
def flaw (d : Draft) (f : Flaw) : Draft :=
  ⟨d.read.bind fun _ => .error f, none⟩

/-- One more character.  A surrogate that waits gets no partner here. -/
def push (d : Draft) (c : Char) : Draft :=
  match d.waiting with
  | some _ => d.flaw .form
  | none => ⟨d.read.map fun cs => c :: cs, none⟩

/-- One more unit of an escape. -/
def pushUnit (d : Draft) (n : Nat) : Draft :=
  let leading := 0xD800 ≤ n ∧ n ≤ 0xDBFF
  let trailing := 0xDC00 ≤ n ∧ n ≤ 0xDFFF
  match d.waiting with
  | some first =>
      if trailing then
        let c := Char.ofNat (0x10000 + (first - 0xD800) * 0x400 + (n - 0xDC00))
        ⟨d.read.map fun cs => c :: cs, none⟩
      else d.flaw .form
  | none =>
      if trailing then d.flaw .form
      else if leading then ⟨d.read, some n⟩
      else ⟨d.read.map fun cs => Char.ofNat n :: cs, none⟩

/-- The text ends here, within quotes. -/
def cutOff (d : Draft) (skipped : Flaw) : Token :=
  match d.read with
  | .ok _ => .brokenText skipped skipped
  | .error f => .brokenText f skipped

/-- The closing quote. -/
def close (d : Draft) : Token :=
  match d.waiting, d.read with
  | some _, .ok _ => .unpairedText
  | none, .ok cs => .text (String.ofList cs.reverse)
  | _, .error _ => .unpairedText

end Draft

/-- The character of a short escape. -/
def shortEscape? : Char → Option Char
  | '"' => some '"'
  | '\\' => some '\\'
  | '/' => some '/'
  | 'b' => some '\x08'
  | 'f' => some '\x0c'
  | 'n' => some '\n'
  | 'r' => some '\r'
  | 't' => some '\t'
  | _ => none

/-- A text after its opening quote. -/
def quoted (d : Draft) (s : List Char) : Token × List Char :=
  match s with
  | [] => (d.cutOff .ending, [])
  | '"' :: rest => (d.close, rest)
  | ['\\'] => (d.cutOff .ending, [])
  | '\\' :: 'u' :: rest =>
      match h : hexWord rest with
      | .ok (n, after) =>
          have := hexWord_length h
          quoted (d.pushUnit n) after
      | .error f => (d.cutOff f, [])
  | '\\' :: c :: rest =>
      match shortEscape? c with
      | some x => quoted (d.push x) rest
      | none => (d.cutOff .form, [])
  | c :: rest =>
      if c.toNat < 0x20 then (d.cutOff .form, []) else quoted (d.push c) rest
termination_by s.length
decreasing_by all_goals simp_wf <;> omega

theorem quoted_length (d : Draft) (s : List Char) :
    (quoted d s).2.length ≤ s.length := by
  fun_induction quoted d s with
  | case1 => exact Nat.le_refl _
  | case2 => exact Nat.le_succ _
  | case3 => exact Nat.zero_le _
  | case4 d rest n after h hlt ih =>
      simp only [List.length_cons]
      omega
  | case5 => exact Nat.zero_le _
  | case6 d c rest hu x h ih =>
      simp only [List.length_cons]
      omega
  | case7 => exact Nat.zero_le _
  | case8 => exact Nat.zero_le _
  | case9 d c rest h1 h2 h3 h4 h5 ih =>
      simp only [List.length_cons]
      omega

/-! ## All tokens -/

/-- A word of letters, after its first letter. -/
def literal (token : Token) : List Char → List Char → Token × List Char
  | [], rest => (token, rest)
  | _ :: _, [] => (.broken .ending .ending, [])
  | e :: es, c :: rest =>
      if c = e then literal token es rest else (.broken .form .form, [])

theorem literal_length (t : Token) (w s : List Char) :
    (literal t w s).2.length ≤ s.length := by
  induction w generalizing s with
  | nil => exact Nat.le_refl _
  | cons e es ih =>
      cases s with
      | nil => exact Nat.zero_le _
      | cons c rest =>
          unfold literal
          split
          · exact Nat.le_succ_of_le (ih rest)
          · exact Nat.zero_le _

/-- The tokens of one character. -/
def punctuation? (c : Char) : Option Token :=
  if c = '\x7b' then some .openObject
  else if c = '\x7d' then some .closeObject
  else if c = '[' then some .openArray
  else if c = ']' then some .closeArray
  else if c = ':' then some .colon
  else if c = ',' then some .comma
  else none

/-- The token that starts with a character, and the rest. -/
def token (c : Char) (rest : List Char) : Token × List Char :=
  match punctuation? c with
  | some t => (t, rest)
  | none =>
      if c = '"' then quoted .empty rest
      else if c = '-' then numberText true rest
      else if c = 'n' then literal .null ['u', 'l', 'l'] rest
      else if c = 't' then literal (.boolean true) ['r', 'u', 'e'] rest
      else if c = 'f' then literal (.boolean false) ['a', 'l', 's', 'e'] rest
      else if (digit? c).isSome then numberText false (c :: rest)
      else (.broken .form .form, [])

theorem numberText_cons_length {b : Bool} {c : Char} {rest : List Char}
    (h : (digit? c).isSome = true) :
    (numberText b (c :: rest)).2.length ≤ rest.length := by
  obtain ⟨d, hd⟩ := Option.isSome_iff_exists.mp h
  have hl := digits_length rest
  unfold numberText
  have hcons : digits (c :: rest) = (d :: (digits rest).1, (digits rest).2) := by
    rw [digits, hd]
  rw [hcons]
  split
  · exact Nat.zero_le _
  · exact Nat.zero_le _
  · rename_i heq
    cases heq
    exact Nat.le_trans (afterWhole_length _ _) hl

theorem token_length (c : Char) (rest : List Char) :
    (token c rest).2.length ≤ rest.length := by
  unfold token
  cases punctuation? c with
  | some t => exact Nat.le_refl _
  | none =>
      dsimp only
      split
      · exact quoted_length _ _
      split
      · exact numberText_length _ _
      split
      · exact literal_length _ _ _
      split
      · exact literal_length _ _ _
      split
      · exact literal_length _ _ _
      split
      · rename_i h
        exact numberText_cons_length h
      · exact Nat.zero_le _

/-- The tokens of a list of characters. -/
def tokensOf (s : List Char) : List Token :=
  match s with
  | [] => []
  | c :: rest =>
      if isBlank c then tokensOf rest
      else
        have := token_length c rest
        (token c rest).1 :: tokensOf (token c rest).2
termination_by s.length
decreasing_by
  · exact Nat.lt_succ_self _
  · exact Nat.lt_succ_of_le this

/-- The tokens of a text. -/
def tokens (text : String) : List Token := tokensOf text.toList

end Provenance.Json
