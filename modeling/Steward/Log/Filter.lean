import Steward.Json
import Steward.Text.Blank
/-!
# Which lines are logged

A filter is a list of rules.  A rule lets lines up to a level through, for all targets or for the
targets that begin with a name; of the rules that fit a target the one with the longest name
decides.  A filter without rules lets only errors through.
-/

set_option autoImplicit false

namespace Steward.Log

inductive Level where
  | error
  | warn
  | info
  | debug
  | trace
  deriving DecidableEq, Repr

namespace Level

def label : Level → String
  | .error => "ERROR"
  | .warn => "WARN"
  | .info => "INFO"
  | .debug => "DEBUG"
  | .trace => "TRACE"

/-- The higher, the more is let through; zero lets nothing through. -/
def rank : Level → Nat
  | .error => 1
  | .warn => 2
  | .info => 3
  | .debug => 4
  | .trace => 5

end Level

def number? : List Char → Option Nat
  | '+' :: digits => Json.decimal? digits
  | digits => Json.decimal? digits

def rank? (text : String) : Option Nat :=
  match number? text.toList with
  | some rank => if rank ≤ Level.trace.rank then some rank else none
  | none => ["off", "error", "warn", "info", "debug", "trace"].idxOf? (text.map Char.toLower)

structure Rule where
  target : String
  rank : Nat
  inSpan : Bool
  deriving DecidableEq, Repr

structure Filter where
  rules : List Rule
  deriving DecidableEq, Repr

namespace Filter

def upTo (level : Level) : Filter := ⟨[⟨"", level.rank, false⟩]⟩

def isTargetStart (c : Char) : Bool :=
  c.isAlphanum || 127 < c.toNat || c == '_' || c == ':' || c == '-'

/-- The rank behind the equals sign of a rule.  If nothing is there, everything is let through. -/
def rankOrAll? (chars : List Char) : Option Nat :=
  if chars.isEmpty then some Level.trace.rank else rank? (String.ofList chars)

/-- The rank of a rule about spans, from behind the bracket that opens the span. -/
def spanRank? (chars : List Char) : Option Nat :=
  let name := chars.takeWhile fun c => c != ']' && c != '\x7b'
  let afterSpan := match chars.drop name.length with
    | '\x7b' :: fields =>
      match fields.takeWhile (· != '\x7d'), (fields.dropWhile (· != '\x7d')).drop 1 with
      | _ :: _, ']' :: rest => some rest
      | _, _ => none
    | ']' :: rest => some rest
    | _ => none
  match afterSpan with
  | some [] => some Level.trace.rank
  | some ('=' :: level) => rankOrAll? level
  | _ => none

/-- The rule that a text writes.  Its parts are found without the blanks around it and cut out of
the text with them. -/
def rule? (text : String) : Option Rule :=
  let chars := text.toList
  let inner := Text.stripBoth Text.isBlank chars
  let name := inner.takeWhile fun c => c != '=' && c != '['
  if inner.head?.any fun c => c != '[' && !isTargetStart c then none
  else
    match inner.drop name.length with
    | [] =>
      if inner.isEmpty then none
      else
        match rank? text with
        | some rank => some ⟨"", rank, false⟩
        | none => some ⟨text, Level.trace.rank, false⟩
    | '=' :: _ =>
      (rankOrAll? (chars.drop (name.length + 1))).map fun rank =>
        ⟨String.ofList (chars.take name.length), rank, false⟩
    | _ :: span =>
      (spanRank? span).map fun rank => ⟨String.ofList (chars.take name.length), rank, true⟩

def ofText? (text : String) : Option Filter := do
  let rules ← ((text.splitOn ",").filter (!·.isEmpty)).mapM rule?
  return if rules.isEmpty then upTo .error else ⟨rules⟩

def longer (a b : Rule) : Rule :=
  if a.target.utf8ByteSize ≤ b.target.utf8ByteSize then b else a

def ruleFor? (filter : Filter) (target : String) : Option Rule :=
  let fitting := filter.rules.filter fun rule =>
    !rule.inSpan && rule.target.toList.isPrefixOf target.toList
  fitting.foldl (fun best rule => some (match best with
    | none => rule
    | some best => longer best rule)) none

def lets (filter : Filter) (target : String) (level : Level) : Bool :=
  match filter.ruleFor? target with
  | none => false
  | some rule => level.rank ≤ rule.rank

end Filter

end Steward.Log
