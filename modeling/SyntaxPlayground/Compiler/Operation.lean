import SyntaxPlayground.Compiler.Failure

/-!
# What a compiler does

A compiler takes a source text and answers with text: the dump of a syntax tree, a list of tokens,
or the output of the program. How it gets there is not the playground's concern, so a compiler is a
function.
-/

namespace SyntaxPlayground

/-- What a compiler may be asked for. -/
inductive Operation where
  | parse
  | tokenize
  | interpret
deriving DecidableEq, Repr, Inhabited

namespace Operation

/-- Every operation. -/
def all : List Operation :=
  [parse, tokenize, interpret]

/-- The name of an operation. -/
def name : Operation → Text
  | parse => utf8 "parse"
  | tokenize => utf8 "tokenize"
  | interpret => utf8 "interpret"

/-- The operation with the given name. -/
def ofName? (n : Text) : Option Operation :=
  all.find? (·.name == n)

theorem ofName?_name (op : Operation) : ofName? op.name = some op := by
  cases op with
  | parse => rfl
  | tokenize => rfl
  | interpret => rfl

theorem name_injective {op op' : Operation} (h : op.name = op'.name) : op = op' := by
  apply Option.some_inj.mp
  rw [← ofName?_name op, ← ofName?_name op', h]

theorem nodup_all : all.Nodup := by
  decide

end Operation

/-- A compiler answers an operation on a source text. -/
abbrev Compiler := Operation → Text → Except Failure Text

namespace Compiler

/-- The operation that a caller names; any other name is an error. -/
def operation (name : Text) : Except Failure Operation :=
  match Operation.ofName? name with
  | some op => .ok op
  | none => .error (.plain (utf8 "unknown compiler operation " ++ name.quoted))

/-- Runs the operation that a caller names. -/
def run (c : Compiler) (name source : Text) : Except Failure Text :=
  match operation name with
  | .ok op => c op source
  | .error e => .error e

/-- A compiler that gives the same answers to every source. -/
def fixed (parse tokenize interpret : Text) : Compiler
  | .parse, _ => .ok parse
  | .tokenize, _ => .ok tokenize
  | .interpret, _ => .ok interpret

end Compiler

end SyntaxPlayground
