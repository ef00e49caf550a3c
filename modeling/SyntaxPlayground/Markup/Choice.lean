import SyntaxPlayground.Markup.Table

/-!
# Rules for choices and templates

A choice holds options and little else; other tags in it are passed over. A template takes the rules
that its first tag needs.
-/

namespace SyntaxPlayground

namespace Builder

/-! ## Choices -/

/-- Closes a choice with all that is in it, if one is in scope. -/
def closeSelect? (b : Builder) : Option Builder :=
  (b.closeTo? .options (·.role = .select)).map resetMode

/-- Closes the innermost element if it has the given role. -/
def popIf (role : TagRole) (b : Builder) : Builder :=
  if b.current.role = role then b.pop else b

/-- An opening tag in a choice. -/
def openInSelect (tag : Text) (attrs : Attributes) (slashed : Bool) (b : Builder) : Reading :=
  match TagRole.ofTag tag with
  | .option => ((b.popIf .option).openTag tag attrs).done
  | .optionGroup => (((b.popIf .option).popIf .optionGroup).openTag tag attrs).done
  | .select => (b.closeSelect?.getD b).done
  | .template => (b.openHead tag attrs).done
  | .metadataText =>
    if tag = utf8 "script" then (b.openHead tag attrs).done else { b with readsTags := true }.done
  | .iframe | .noembed | .noscript => { b with readsTags := true }.done
  | .textarea =>
    match b.closeSelect? with
    | some b => b.again (.opening tag attrs slashed)
    | none => { b with readsTags := true }.done
  | .void =>
    if tag = utf8 "input" || tag = utf8 "keygen" then
      match b.closeSelect? with
      | some b => b.again (.opening tag attrs slashed)
      | none => { b with readsTags := true }.done
    else b.done
  | _ => b.done

/-- A closing tag in a choice. -/
def closeInSelect (tag : Text) (b : Builder) : Builder :=
  match TagRole.ofTag tag with
  | .option => b.popIf .option
  | .optionGroup =>
    let outer := b.popIf .option
    if outer.current.role = .optionGroup then outer.pop else b
  | .select => b.closeSelect?.getD b
  | .template => b.closeTemplate
  | _ => b

/-- A token in a choice. -/
def readSelect (t : Token) (b : Builder) : Reading :=
  match t with
  | .text s => (b.insertText (s.filter (· ≠ 0))).done
  | .opening tag attrs slashed => b.openInSelect tag attrs slashed
  | .closing tag => (b.closeInSelect tag).done
  | .comment s => (b.insert (.comment s)).done

/-- The parts of a table that end a choice in it. -/
def endsSelect : TagRole → Bool
  | .caption | .table | .rowGroup | .row | .cell => true
  | _ => false

/-- Leaves a choice, wherever it was opened, with a token. -/
def leaveSelect (t : Token) (b : Builder) : Reading :=
  let d := (b.stack.findIdx? fun e => e.role = .select).map (· + 1)
  (resetMode { b with stack := b.stack.drop (d.getD 0) }).again t

/-- A token in a choice in a table. -/
def readSelectInTable (t : Token) (b : Builder) : Reading :=
  match t with
  | .opening tag .. => if endsSelect (.ofTag tag) then b.leaveSelect t else b.readSelect t
  | .closing tag =>
    if endsSelect (.ofTag tag) then
      if b.inScope .table (·.tag = tag) then b.leaveSelect t else b.done
    else b.readSelect t
  | t => b.readSelect t

/-! ## Templates -/

/-- Takes the rules of a mode inside the innermost template. -/
def adoptMode (m : Mode) (b : Builder) : Builder :=
  { b with mode := m, templates := m :: b.templates.drop 1 }

/-- A token at the beginning of a template. -/
def readTemplate (t : Token) (b : Builder) : Reading :=
  match t with
  | .opening tag attrs _ =>
    match TagRole.ofTag tag with
    | .metadata | .metadataText | .template => (b.openHead tag attrs).done
    | .caption | .columnGroup | .rowGroup => (b.adoptMode .table).again t
    | .column => (b.adoptMode .columns).again t
    | .row => (b.adoptMode .tableBody).again t
    | .cell => (b.adoptMode .row).again t
    | _ => (b.adoptMode .body).again t
  | .closing tag => (if tag = utf8 "template" then b.closeTemplate else b).done
  | t => b.readBody t

end Builder

end SyntaxPlayground
