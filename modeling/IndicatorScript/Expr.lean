/-!
# Expressions and statements

The trees that scripts are read into. They are generic in what a number literal holds: the double it names when a
script is to be run, or its text when the script is to be written again.

A minus sign or an exclamation mark in front of an operand is the binary operator with a literal zero on its left.
-/

namespace IndicatorScript

class Literal (α : Type) where
  /-- The left operand of a sign. -/
  zero : α
  /-- What a text names, if it is a number. -/
  read? : String → Option α

inductive Arithmetic where
  | add | subtract | multiply | divide
  deriving DecidableEq, Repr

inductive Test where
  | greater | less | greaterEqual | lessEqual | equal | notEqual
  | and | or | not
  deriving DecidableEq, Repr

inductive Operator where
  | arithmetic (op : Arithmetic)
  | test (op : Test)
  /-- A symbol that is no operator. Scripts have none; trees built by hand may. -/
  | unknown (symbol : String)
  deriving DecidableEq, Repr

def Arithmetic.symbol : Arithmetic → String
  | .add => "+"
  | .subtract => "-"
  | .multiply => "*"
  | .divide => "/"

def Test.symbol : Test → String
  | .greater => ">"
  | .less => "<"
  | .greaterEqual => ">="
  | .lessEqual => "<="
  | .equal => "=="
  | .notEqual => "!="
  | .and => "and"
  | .or => "or"
  | .not => "!"

def Operator.symbol : Operator → String
  | .arithmetic op => op.symbol
  | .test op => op.symbol
  | .unknown symbol => symbol

def Operator.ofSymbol (symbol : String) : Operator :=
  match symbol with
  | "+" => .arithmetic .add
  | "-" => .arithmetic .subtract
  | "*" => .arithmetic .multiply
  | "/" => .arithmetic .divide
  | ">" => .test .greater
  | "<" => .test .less
  | ">=" => .test .greaterEqual
  | "<=" => .test .lessEqual
  | "==" => .test .equal
  | "!=" => .test .notEqual
  | "and" => .test .and
  | "or" => .test .or
  | "!" => .test .not
  | symbol => .unknown symbol

inductive Expr (α : Type) where
  | number (value : α)
  | text (value : String)
  | boolean (value : Bool)
  | name (name : String)
  | call (function : String) (arguments : List (Expr α))
  | binary (left : Expr α) (op : Operator) (right : Expr α)
  /-- The value of a declared series at a position, counted from the oldest bar. -/
  | index (series : String) (position : Expr α)
  deriving Repr

structure Study where
  title : String := ""
  shortTitle : String := ""
  overlay : Bool := false
  deriving DecidableEq, Repr

inductive Statement (α : Type) where
  | study (study : Study)
  | scalar (name : String) (value : Expr α)
  | series (name : String) (value : Expr α)
  | plot (value : Expr α)
  deriving Repr

/-- To show something of every expression, show it of each form from what its operands, arguments or position have. -/
@[elab_as_elim]
theorem Expr.induction {α : Type} {motive : Expr α → Prop} (number : ∀ x, motive (.number x))
    (text : ∀ s, motive (.text s)) (boolean : ∀ b, motive (.boolean b)) (name : ∀ n, motive (.name n))
    (call : ∀ function arguments, (∀ a ∈ arguments, motive a) → motive (.call function arguments))
    (binary : ∀ left op right, motive left → motive right → motive (.binary left op right))
    (index : ∀ series position, motive position → motive (.index series position)) (e : Expr α) : motive e :=
  @Expr.rec α motive (fun arguments => ∀ a ∈ arguments, motive a) number text boolean name call binary index
    (fun _ mem => absurd mem List.not_mem_nil)
    (fun _ _ first others _ mem => (List.mem_cons.mp mem).elim (fun same => same ▸ first) (others _)) e

theorem Arithmetic.ofSymbol_symbol (op : Arithmetic) : Operator.ofSymbol op.symbol = .arithmetic op := by
  cases op <;> rfl

theorem Test.ofSymbol_symbol (op : Test) : Operator.ofSymbol op.symbol = .test op := by
  cases op <;> rfl

end IndicatorScript
