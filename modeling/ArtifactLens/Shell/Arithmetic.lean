import ArtifactLens.Number.Rounding
import ArtifactLens.Shell.Grammar
import ArtifactLens.Text.Digit

/-!
# Shell arithmetic

Expressions over 64-bit integers with the operators, precedences and assignments of C, save for
increments and the comma. Results wrap around; a numeral beyond the range stands for the nearest
bound. The right side of `&&` and `||` and the branch of a condition that is not taken are read
without effect: they assign nothing and divide by nothing.

An expression is evaluated as it is read, in an environment of variables that it may change.
-/

namespace ArtifactLens.Shell

namespace Arithmetic

/-- Why an expression has no value. -/
inductive Fault where
  /-- The expression is malformed, or divides by zero. -/
  | expression (complaint : String)
  /-- A variable holds no numeral. -/
  | numeral (text : String)
  /-- A variable has no value, and must have one. -/
  | unset (name : String)
  /-- A variable that an expression assigns to is protected. -/
  | readOnly (name : String)
  /-- A quotient that lies beyond the range. -/
  | overflow
  deriving DecidableEq, Repr

/-- The least value. -/
def least : Int := -(2 ^ 63)

/-- The greatest value. -/
def greatest : Int := 2 ^ 63 - 1

/-- A number reduced to the range by wrapping around. -/
def wrap (n : Int) : Int := Int.bmod n (2 ^ 64)

/-- A number moved to the nearest value of the range. -/
def clamp (n : Int) : Int := max least (min greatest n)

/-- The value of digits in a base. -/
def digitsValue (base : Nat) (digits : List Char) : Nat :=
  digits.foldl (fun n c => n * base + (Digit.hexValue? c).getD 0) 0

/-- Reads an unsigned numeral: decimal, octal after `0`, hexadecimal after `0x`. -/
def unsigned? (text : List Char) : Option (Nat × List Char) :=
  match text with
  | '0' :: x :: d :: rest =>
    if (x = 'x' ∨ x = 'X') ∧ (Digit.hexValue? d).isSome then
      let digits := (d :: rest).takeWhile fun c => (Digit.hexValue? c).isSome
      some (digitsValue 16 digits, (d :: rest).drop digits.length)
    else
      let digits := text.takeWhile fun c => '0' ≤ c && c ≤ '7'
      some (digitsValue 8 digits, text.drop digits.length)
  | '0' :: _ =>
    let digits := text.takeWhile fun c => '0' ≤ c && c ≤ '7'
    some (digitsValue 8 digits, text.drop digits.length)
  | c :: _ =>
    if c.isDigit then
      let digits := text.takeWhile Char.isDigit
      some (digitsValue 10 digits, text.drop digits.length)
    else none
  | [] => none

/-- The character is white space within a numeral. -/
def isSpace (c : Char) : Bool := c == ' ' || (0x09 ≤ c.toNat && c.toNat ≤ 0x0d)

/-- The value of a text that is a numeral within the range with an optional sign, blanks around it
being allowed. -/
def numeral? (text : String) : Option Int :=
  let chars := text.toList.dropWhile isSpace
  let (negative, body) := match chars with
    | '-' :: rest => (true, rest)
    | '+' :: rest => (false, rest)
    | rest => (false, rest)
  match unsigned? body with
  | some (magnitude, rest) =>
    let value : Int := if negative then -(magnitude : Int) else magnitude
    if rest.all isSpace ∧ clamp value = value then some value else none
  | none => if chars.isEmpty then some 0 else none

/-- The operators of two operands, longest first. -/
inductive Binary where
  | times | divide | remainder
  | plus | minus
  | shiftLeft | shiftRight
  | less | lessEqual | greater | greaterEqual
  | equal | notEqual
  | bitAnd
  | bitXor
  | bitOr
  deriving DecidableEq, Repr

/-- How tightly an operator binds. -/
def Binary.level : Binary → Nat
  | .times | .divide | .remainder => 10
  | .plus | .minus => 9
  | .shiftLeft | .shiftRight => 8
  | .less | .lessEqual | .greater | .greaterEqual => 7
  | .equal | .notEqual => 6
  | .bitAnd => 5
  | .bitXor => 4
  | .bitOr => 3

/-- A token of an expression. -/
inductive Symbol where
  | number (value : Int)
  | variable (name : String)
  | binary (operator : Binary)
  /-- An assignment, combined with an operator or not. -/
  | assign (operator : Option Binary)
  | and
  | or
  | not
  | complement
  | question
  | colon
  | openParen
  | closeParen
  | finish
  | bad
  deriving DecidableEq, Repr

/-- The operators by their spelling, longer ones first. -/
def spellings : List (String × Symbol) :=
  [("<<=", .assign (some .shiftLeft)), (">>=", .assign (some .shiftRight)),
    ("<<", .binary .shiftLeft), (">>", .binary .shiftRight), ("<=", .binary .lessEqual),
    (">=", .binary .greaterEqual), ("==", .binary .equal), ("!=", .binary .notEqual),
    ("&&", .and), ("||", .or), ("+=", .assign (some .plus)), ("-=", .assign (some .minus)),
    ("*=", .assign (some .times)), ("/=", .assign (some .divide)),
    ("%=", .assign (some .remainder)), ("&=", .assign (some .bitAnd)),
    ("^=", .assign (some .bitXor)), ("|=", .assign (some .bitOr)), ("=", .assign none),
    ("<", .binary .less), (">", .binary .greater), ("+", .binary .plus), ("-", .binary .minus),
    ("*", .binary .times), ("/", .binary .divide), ("%", .binary .remainder),
    ("&", .binary .bitAnd), ("^", .binary .bitXor), ("|", .binary .bitOr), ("!", .not),
    ("~", .complement), ("?", .question), (":", .colon), ("(", .openParen), (")", .closeParen)]

/-- The first token of a text, and the text after it. -/
def symbol (text : List Char) : Symbol × List Char :=
  let text := text.dropWhile fun c => c == ' ' || c == '\t' || c == '\n'
  match text with
  | [] => (.finish, [])
  | c :: _ =>
    if isNameStart c then
      let name := text.takeWhile isNameChar
      (.variable (String.ofList name), text.drop name.length)
    else
      match unsigned? text with
      | some (value, rest) => (.number (clamp value), rest)
      | none =>
        match spellings.find? fun entry => entry.1.toList.isPrefixOf text with
        | some (spelling, found) => (found, text.drop spelling.length)
        | none => (.bad, text)

/-- The value of an operator; a division by zero has none. -/
def apply (operator : Binary) (a b : Int) : Except Fault Int :=
  let truth (b : Bool) : Int := if b then 1 else 0
  let bits (f : BitVec 64 → BitVec 64 → BitVec 64) : Int :=
    (f (BitVec.ofInt 64 a) (BitVec.ofInt 64 b)).toInt
  match operator with
  | .times => .ok (wrap (a * b))
  | .divide =>
    if b = 0 then .error (.expression "division by zero")
    else if a = least ∧ b = -1 then .error .overflow
    else .ok (a.tdiv b)
  | .remainder =>
    if b = 0 then .error (.expression "division by zero")
    else if a = least ∧ b = -1 then .error .overflow
    else .ok (a.tmod b)
  | .plus => .ok (wrap (a + b))
  | .minus => .ok (wrap (a - b))
  | .shiftLeft => .ok (wrap (a * 2 ^ (b % 64).toNat))
  | .shiftRight => .ok (a >>> (b % 64).toNat)
  | .less => .ok (truth (a < b))
  | .lessEqual => .ok (truth (a ≤ b))
  | .greater => .ok (truth (a > b))
  | .greaterEqual => .ok (truth (a ≥ b))
  | .equal => .ok (truth (a == b))
  | .notEqual => .ok (truth (a != b))
  | .bitAnd => .ok (bits (· &&& ·))
  | .bitXor => .ok (bits (· ^^^ ·))
  | .bitOr => .ok (bits (· ||| ·))

/-- The variables that an expression reads and writes. -/
structure Environment (ε : Type) where
  get : ε → String → Except Fault String
  set : ε → String → String → Except Fault ε

/-- The state of evaluation: the last token, the text after it, and the variables. -/
structure State (ε : Type) where
  symbol : Symbol
  rest : List Char
  store : ε

/-- Evaluation of a piece of an expression. -/
abbrev Eval (ε α : Type) := StateT (State ε) (Except Fault) α

variable {ε : Type}

/-- Reads the next token. -/
def advance : Eval ε Unit :=
  modify fun state =>
    let (symbol, rest) := symbol state.rest
    { state with symbol, rest }

/-- Gives up on the expression. -/
def fail {α : Type} (complaint : String) : Eval ε α := throw (.expression complaint)

/-- The value of a variable; without effect every variable counts as zero. -/
def lookup (environment : Environment ε) (name : String) (live : Bool) : Eval ε Int := do
  if !live then return 0
  else
    match environment.get (← get).store name with
    | .error fault => throw fault
    | .ok text =>
      match numeral? text with
      | some value => return value
      | none => throw (.numeral text)

mutual

/-- A number, a variable, a parenthesis or a sign and its operand. -/
def primary (environment : Environment ε) (live : Bool) : (measure : Nat) → Eval ε Int
  | 0 => fail "expecting primary"
  | measure + 1 => do
    match (← get).symbol with
    | .number value =>
      advance
      return value
    | .variable name =>
      advance
      lookup environment name live
    | .openParen =>
      advance
      let value ← assignment environment live measure
      if (← get).symbol = .closeParen then
        advance
        return value
      else fail "expecting ')'"
    | .binary .plus =>
      advance
      primary environment live measure
    | .binary .minus =>
      advance
      return wrap (-(← primary environment live measure))
    | .not =>
      advance
      return if (← primary environment live measure) = 0 then 1 else 0
    | .complement =>
      advance
      return wrap (-(← primary environment live measure) - 1)
    | _ => fail "expecting primary"

/-- Operators that bind at least as tightly as a level, from a first operand on. -/
def climb (environment : Environment ε) (live : Bool) (level : Nat) (first : Int) :
    (measure : Nat) → Eval ε Int
  | 0 => return first
  | measure + 1 => do
    match (← get).symbol with
    | .binary operator =>
      if operator.level < level then return first
      else
        advance
        let operand ← primary environment live measure
        let second ← climb environment live (operator.level + 1) operand measure
        let value ← if live then
            match apply operator first second with
            | .ok value => pure value
            | .error fault => throw fault
          else pure 0
        climb environment live level value measure
    | _ => return first

/-- Expressions joined by `&&`. -/
def conjunction (environment : Environment ε) (live : Bool) : (measure : Nat) → Eval ε Int
  | 0 => fail "expecting primary"
  | measure + 1 => do
    let operand ← primary environment live measure
    let first ← climb environment live 0 operand measure
    if (← get).symbol = .and then
      advance
      let second ← conjunction environment (live && first != 0) measure
      return if first ≠ 0 ∧ second ≠ 0 then 1 else 0
    else return first

/-- Expressions joined by `||`. -/
def disjunction (environment : Environment ε) (live : Bool) : (measure : Nat) → Eval ε Int
  | 0 => fail "expecting primary"
  | measure + 1 => do
    let first ← conjunction environment live measure
    if (← get).symbol = .or then
      advance
      let second ← disjunction environment (live && first == 0) measure
      return if first ≠ 0 ∨ second ≠ 0 then 1 else 0
    else return first

/-- A condition and its two branches. -/
def choice (environment : Environment ε) (live : Bool) : (measure : Nat) → Eval ε Int
  | 0 => fail "expecting primary"
  | measure + 1 => do
    let test ← disjunction environment live measure
    if (← get).symbol = .question then
      advance
      let yes ← assignment environment (live && test != 0) measure
      if (← get).symbol ≠ .colon then fail "expecting ':'"
      else
        advance
        let no ← choice environment (live && test == 0) measure
        return if test ≠ 0 then yes else no
    else return test

/-- An assignment, or an expression without one. -/
def assignment (environment : Environment ε) (live : Bool) : (measure : Nat) → Eval ε Int
  | 0 => fail "expecting primary"
  | measure + 1 => do
    let state ← get
    match state.symbol with
    | .variable name =>
      match symbol state.rest with
      | (.assign operator, rest) =>
        set { state with rest }
        advance
        let value ← assignment environment live measure
        if !live then return value
        else
          let value ← match operator with
            | none => pure value
            | some operator =>
              let old ← lookup environment name live
              match apply operator old value with
              | .ok value => pure value
              | .error fault => throw fault
          let state ← get
          match environment.set state.store name (toString value) with
          | .error fault => throw fault
          | .ok store =>
            set { state with store }
            return value
      | _ => choice environment live measure
    | _ => choice environment live measure

end

/-- The value of an expression, and the variables afterwards. -/
def evaluate (environment : Environment ε) (store : ε) (text : String) :
    Except Fault (Int × ε) :=
  let measure := 8 * text.length + 100
  let whole : Eval ε Int := do
    advance
    let value ← assignment environment true measure
    if (← get).symbol = .finish then return value else fail "expecting EOF"
  match whole.run ⟨.finish, text.toList, store⟩ with
  | .ok (value, state) => .ok (value, state.store)
  | .error fault => .error fault

end Arithmetic

/-! ### Numbers among arguments

Where the shell wants a number, it takes a decimal integer that may have a sign, and blanks around
it. Most places want a number that is not negative and fits 31 bits. -/

namespace Argument

/-- The value of a decimal integer with an optional sign and blanks around it. -/
def integer? (text : String) : Option Int :=
  let chars := text.toList.dropWhile Arithmetic.isSpace
  let (negative, body) := match chars with
    | '-' :: rest => (true, rest)
    | '+' :: rest => (false, rest)
    | rest => (false, rest)
  let digits := body.takeWhile Char.isDigit
  let magnitude : Int := Digit.numeral digits
  let value := if negative then -magnitude else magnitude
  if digits.isEmpty ∨ !(body.drop digits.length).all Arithmetic.isSpace ∨
      Arithmetic.clamp value ≠ value then none
  else some value

/-- The value of a numeral that is no less than zero and fits 31 bits. -/
def number? (text : String) : Option Nat :=
  match integer? text with
  | some value => if 0 ≤ value ∧ value < 2 ^ 31 then some value.toNat else none
  | none => none

/-- The complaint about a text that is no number. -/
def badNumber (text : String) : String := "Illegal number: " ++ text

end Argument

end ArtifactLens.Shell
