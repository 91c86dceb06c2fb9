import Mathlib.Data.List.Basic
import Mathlib.Algebra.Group.Nat.Basic

/-!
# `strconv.Quote`, as `%q` writes a string

`fmt`'s verb `%q` on a string writes `strconv.Quote` of it: the string between double
quotes, the quote and the backslash always escaped, every other rune as it is when
`strconv.IsPrint` holds of it, and otherwise one of the seven C escapes (`\a`, `\b`, `\f`,
`\n`, `\r`, `\t`, `\v`), or its code in lower-case hex after `\x`, `\u` or `\U`.

Lean strings hold Unicode scalar values only, so the bytes of invalid UTF-8 that Go
escapes one at a time with `\x` do not arise here. `strconv.IsPrint` decides the runes
above U+00FF with tables generated from the Unicode database, which are not part of the
repository; they are the parameter `printWide`.

## Main definitions

* `isPrint`, `escapeRune`, `quote` — `strconv.IsPrint`, `appendEscapedRune` and
  `strconv.Quote`
* `unescape`, `unquote` — reading a quoted string back

## Main results

* `foldlM_readChar_escapeRune` — the escape of every rune reads back to that rune
* `unquote_quote` — `%q` loses nothing: the string is read back from its quotation, for
  every table of printable runes
* `quote_injective` — so different strings are never quoted alike
-/

namespace Estuary

/-- The double quote `strconv.Quote` writes around the string. -/
def quoteChar : Char := Char.ofNat 0x22

/-- The backslash that starts an escape. -/
def backslash : Char := Char.ofNat 0x5C

/-- `lowerhex[n]`, for `n < 16`. -/
def hexDigit (n : Nat) : Char :=
  if n < 10 then Char.ofNat (0x30 + n) else Char.ofNat (0x57 + n)

/-- The last `k` hex digits of `v`, most significant first: Go's loop
`for s := 4 * (k - 1); s >= 0; s -= 4` over `lowerhex[r>>uint(s)&0xF]`. -/
def hexDigits : Nat → Nat → List Char
  | 0, _ => []
  | k + 1, v => hexDigits k (v / 16) ++ [hexDigit (v % 16)]

section Quote

variable (printWide : Char → Bool)

/-- `strconv.IsPrint`: below U+0100 its own test (space to `~`, and `¡` to `ÿ` but the soft
hyphen), above the tables, `printWide`. -/
def isPrint (r : Char) : Bool :=
  if r.toNat ≤ 0xFF then
    (0x20 ≤ r.toNat && r.toNat ≤ 0x7E) || (0xA1 ≤ r.toNat && r.toNat ≠ 0xAD)
  else printWide r

/-- `appendEscapedRune(buf, r, '"', false, false)`: what `strconv.Quote` writes for the
rune `r`. -/
def escapeRune (r : Char) : List Char :=
  if r = quoteChar ∨ r = backslash then [backslash, r]
  else if isPrint printWide r then [r]
  else
    match r.toNat with
    | 0x07 => [backslash, 'a']
    | 0x08 => [backslash, 'b']
    | 0x0C => [backslash, 'f']
    | 0x0A => [backslash, 'n']
    | 0x0D => [backslash, 'r']
    | 0x09 => [backslash, 't']
    | 0x0B => [backslash, 'v']
    | n =>
      if n < 0x20 ∨ n = 0x7F then backslash :: 'x' :: hexDigits 2 n
      else if n < 0x10000 then backslash :: 'u' :: hexDigits 4 n
      else backslash :: 'U' :: hexDigits 8 n

/-- `strconv.Quote(s)`, which `%q` writes for the string `s`. -/
def quote (s : String) : String :=
  String.mk (quoteChar :: s.toList.flatMap (escapeRune printWide) ++ [quoteChar])

/-- A carriage return is written `\r`, and the no-break space U+00A0, which is not
printable, `\u00a0`. -/
example : escapeRune (fun _ => false) (Char.ofNat 0x0D) = [backslash, 'r'] ∧
    escapeRune (fun _ => false) (Char.ofNat 0xA0) = [backslash, 'u', '0', '0', 'a', '0'] := by
  decide

end Quote

/-! ## Reading a quotation back -/

/-- The value of a lower-case hex digit. -/
def hexValue (d : Char) : Option Nat :=
  if 0x30 ≤ d.toNat ∧ d.toNat ≤ 0x39 then some (d.toNat - 0x30)
  else if 0x61 ≤ d.toNat ∧ d.toNat ≤ 0x66 then some (d.toNat - 0x57)
  else none

/-- The rune a one-letter escape stands for. -/
def escapeValue (e : Char) : Option Char :=
  if e = quoteChar ∨ e = backslash then some e
  else if e = 'a' then some (Char.ofNat 0x07)
  else if e = 'b' then some (Char.ofNat 0x08)
  else if e = 'f' then some (Char.ofNat 0x0C)
  else if e = 'n' then some (Char.ofNat 0x0A)
  else if e = 'r' then some (Char.ofNat 0x0D)
  else if e = 't' then some (Char.ofNat 0x09)
  else if e = 'v' then some (Char.ofNat 0x0B)
  else none

/-- Where a reader of a quotation stands between two characters. -/
inductive Reading
  /-- Between two runes. -/
  | plain
  /-- After a backslash. -/
  | escape
  /-- In a hex code, with `left` digits to come and the value of those read. -/
  | hex (left acc : Nat)
  deriving DecidableEq, Repr

/-- One character of a quotation: the reader's next state and the runes read so far, or
`none` when the character cannot stand there. -/
def readChar : Reading × List Char → Char → Option (Reading × List Char)
  | (.plain, out), c => if c = backslash then some (.escape, out) else some (.plain, out ++ [c])
  | (.escape, out), e =>
    match escapeValue e with
    | some r => some (.plain, out ++ [r])
    | none =>
      if e = 'x' then some (.hex 2 0, out)
      else if e = 'u' then some (.hex 4 0, out)
      else if e = 'U' then some (.hex 8 0, out)
      else none
  | (.hex left acc, out), d =>
    (hexValue d).map fun v =>
      if left = 1 then (.plain, out ++ [Char.ofNat (16 * acc + v)])
      else (.hex (left - 1) (16 * acc + v), out)

/-- Reads back the runes a sequence of escapes and plain runes stands for. -/
def unescape (l : List Char) : Option (List Char) :=
  match l.foldlM readChar (.plain, []) with
  | some (.plain, out) => some out
  | _ => none

/-- Reads a quoted string back: the runes between the two quotes. -/
def unquote (s : String) : Option String :=
  match s.toList with
  | c :: body =>
    if c = quoteChar then
      (unescape body).bind fun l =>
        if l.getLast? = some quoteChar then some (String.mk l.dropLast) else none
    else none
  | [] => none

theorem hexValue_hexDigit : ∀ n, n < 16 → hexValue (hexDigit n) = some n := by
  decide

theorem readChar_backslash (out : List Char) :
    readChar (.plain, out) backslash = some (.escape, out) := by
  simp [readChar]

theorem readChar_of_ne {c : Char} (h : c ≠ backslash) (out : List Char) :
    readChar (.plain, out) c = some (.plain, out ++ [c]) := by
  simp [readChar, h]

theorem readChar_hexDigit {n : Nat} (hn : n < 16) (left acc : Nat) (out : List Char) :
    readChar (.hex left acc, out) (hexDigit n) =
      some (if left = 1 then (.plain, out ++ [Char.ofNat (16 * acc + n)])
        else (.hex (left - 1) (16 * acc + n), out)) := by
  simp [readChar, hexValue_hexDigit n hn]

/-- The digits of `hexDigits k v` spell `v` modulo `16 ^ k`: read inside a hex code with
`j` digits still to come after them, they leave its value at `v % 16 ^ k`. -/
theorem foldlM_readChar_hexDigits (out : List Char) :
    ∀ k v j, j ≠ 0 → (hexDigits k v).foldlM readChar (.hex (k + j) 0, out) =
      some (.hex j (v % 16 ^ k), out)
  | 0, v, j, _ => by
    simp only [Nat.zero_add, hexDigits, List.foldlM_nil, Option.pure_def, Nat.pow_zero, Nat.mod_one]
  | k + 1, v, j, hj => by
    rw [hexDigits, List.foldlM_append, show k + 1 + j = k + (j + 1) by omega,
      foldlM_readChar_hexDigits out k (v / 16) (j + 1) (by omega)]
    simp only [List.foldlM_cons, List.foldlM_nil, Option.pure_def, Option.bind_eq_bind,
      Option.bind_some, Option.some_bind, readChar_hexDigit (Nat.mod_lt v (by decide)),
      Nat.add_left_eq_self, hj, reduceIte, Nat.add_one_sub_one, Nat.pow_succ', Nat.mod_mul,
      Nat.add_comm]

/-- A rune written as its code in `k + 1` hex digits after the escape letter `e` is read
back. -/
theorem foldlM_readChar_hex {r : Char} {k : Nat} (hk : r.toNat < 16 ^ (k + 1)) {e : Char}
    (he : ∀ out, readChar (.escape, out) e = some (.hex (k + 1) 0, out)) (out : List Char) :
    (backslash :: e :: hexDigits (k + 1) r.toNat).foldlM readChar (.plain, out) =
      some (.plain, out ++ [r]) := by
  have hv : 16 * (r.toNat / 16 % 16 ^ k) + r.toNat % 16 = r.toNat := by
    rw [Nat.add_comm, ← Nat.mod_mul, ← Nat.pow_succ', Nat.mod_eq_of_lt hk]
  rw [hexDigits]
  simp only [List.foldlM_cons, readChar_backslash, List.foldlM_append, List.foldlM_nil,
    Option.pure_def, Option.bind_eq_bind, Option.some_bind, he,
    foldlM_readChar_hexDigits out k (r.toNat / 16) 1 Nat.one_ne_zero,
    readChar_hexDigit (Nat.mod_lt r.toNat (by decide)), reduceIte, hv, Char.ofNat_toNat]

/-- A rune written as a one-letter escape is read back. -/
theorem foldlM_readChar_escapeValue {e r : Char} (h : escapeValue e = some r) (out : List Char) :
    [backslash, e].foldlM readChar (.plain, out) = some (.plain, out ++ [r]) := by
  simp [readChar_backslash, readChar, h]

section Quote

variable {printWide : Char → Bool}

/-- The escape of every rune reads back to that rune. -/
theorem foldlM_readChar_escapeRune (r : Char) (out : List Char) :
    (escapeRune printWide r).foldlM readChar (.plain, out) = some (.plain, out ++ [r]) := by
  unfold escapeRune
  split
  · next h => exact foldlM_readChar_escapeValue (by simp [escapeValue, h]) out
  split
  · next h _ => simp [readChar_of_ne fun e => h (.inr e)]
  split
  -- the seven C escapes
  case h_1 _ hn | h_2 _ hn | h_3 _ hn | h_4 _ hn | h_5 _ hn | h_6 _ hn | h_7 _ hn =>
    rw [show r = Char.ofNat r.toNat from (Char.ofNat_toNat r).symm, hn]
    exact foldlM_readChar_escapeValue (by decide) out
  -- the code in hex, in 2, 4 or 8 digits
  have h32 : r.toNat < 16 ^ 8 := r.val.val.isLt
  repeat' split
  all_goals
    refine foldlM_readChar_hex (by omega) (fun _ => ?_) out
    simp +decide [readChar, escapeValue]

theorem foldlM_readChar_flatMap (l out : List Char) :
    (l.flatMap (escapeRune printWide)).foldlM readChar (.plain, out) = some (.plain, out ++ l) := by
  induction l generalizing out with
  | nil => simp
  | cons r l ih => simp [List.flatMap_cons, List.foldlM_append, foldlM_readChar_escapeRune, ih]

/-- `%q` loses nothing: the string is read back from its quotation. -/
theorem unquote_quote (s : String) : unquote (quote printWide s) = some s := by
  have hq : readChar (.plain, s.data) quoteChar = some (.plain, s.data ++ [quoteChar]) :=
    readChar_of_ne (by decide) _
  simp [unquote, quote, unescape, List.foldlM_append, foldlM_readChar_flatMap, hq]

theorem quote_injective : Function.Injective (quote printWide) := fun s s' h => by
  simpa only [unquote_quote, Option.some.injEq] using congrArg unquote h

end Quote

end Estuary
