import SyntaxPlayground.Markup.Body

/-!
# Rules for tables

Rows, cells and what is around them open and close each other. What has no place in a table is put
before it.
-/

namespace SyntaxPlayground

namespace Builder

/-- Whether text is nothing but white space. -/
def isWhite (t : Text) : Bool :=
  t.all Text.isTagSpace

/-- Reads a token as running content that is put before the table. -/
def readMisplaced (t : Token) (b : Builder) : Reading :=
  let (b, rest) := { b with fosters := true }.readBody t
  ({ b with fosters := false }, rest)

/-- Opens a choice in a table. -/
def openSelectInTable (tag : Text) (attrs : Attributes) (b : Builder) : Builder :=
  { b.resumeFormatting.openTag tag attrs with mode := .selectInTable }

/-- Whether a control is not shown. -/
def isHidden (attrs : Attributes) : Bool :=
  attrs.any fun a => a.name == utf8 "type" && a.value.map Text.lowerByte == utf8 "hidden"

/-- Opens a part of the table in its place and changes to its mode. -/
def openPart (place : TagRole) (tag : Text) (attrs : Attributes) (mode : Mode)
    (b : Builder) : Builder :=
  { (b.clearTo place).openTag tag attrs with mode := mode }

/-- An opening tag in a table. -/
def openInTable (tag : Text) (attrs : Attributes) (slashed : Bool) (b : Builder) : Reading :=
  let t := Token.opening tag attrs slashed
  match TagRole.ofTag tag with
  | .caption =>
    { ((b.clearTo .table).pushMarker).openTag tag attrs with mode := .caption }.done
  | .columnGroup => (b.openPart .table tag attrs .columns).done
  | .column => (b.openPart .table (utf8 "colgroup") [] .columns).again t
  | .rowGroup => (b.openPart .table tag attrs .tableBody).done
  | .row | .cell => (b.openPart .table (utf8 "tbody") [] .tableBody).again t
  | .table =>
    match b.closeTo? .table (·.role = .table) with
    | some b => b.resetMode.again t
    | none => b.done
  | .template => (b.openHead tag attrs).done
  | .metadataText =>
    if tag = utf8 "script" || tag = utf8 "style" then (b.openHead tag attrs).done
    else b.readMisplaced t
  | .void =>
    if tag = utf8 "input" && isHidden attrs then (b.addVoid tag attrs).done else b.readMisplaced t
  | .form =>
    if b.inTemplate || b.form.isSome then b.done
    else
      let b := b.openTag tag attrs
      { b.pop with form := some b.current.number }.done
  | .select =>
    let b := b.resumeFormatting
    let b := { b with fosters := true }.openTag tag attrs
    { b with fosters := false, mode := .selectInTable }.done
  | _ => b.readMisplaced t

/-- A closing tag in a table. -/
def closeInTable (tag : Text) (b : Builder) : Reading :=
  match TagRole.ofTag tag with
  | .table => (((b.closeTo? .table (·.role = .table)).map resetMode).getD b).done
  | .html | .caption | .column | .columnGroup | .rowGroup | .row | .cell => b.done
  | .template => b.closeTemplate.done
  | _ => if tag = utf8 "body" then b.done else b.readMisplaced (.closing tag)

/-- A token in a table. -/
def readTable (t : Token) (b : Builder) : Reading :=
  match t with
  | .text s =>
    let s := s.filter (· ≠ 0)
    if b.current.role.isTablePlace && isWhite s then (b.insertText s).done
    else b.readMisplaced (.text s)
  | .opening tag attrs slashed => b.openInTable tag attrs slashed
  | .closing tag => b.closeInTable tag
  | .comment s => (b.insert (.comment s)).done

/-- Leaves a caption, if one is in scope. -/
def leaveCaption? (b : Builder) : Option Builder :=
  (b.closeTo? .table (·.role = .caption)).map fun b => { b.clearFormatting with mode := .table }

/-- A token in the caption of a table. -/
def readCaption (t : Token) (b : Builder) : Reading :=
  match t with
  | .opening tag attrs _ =>
    match TagRole.ofTag tag with
    | .caption | .column | .columnGroup | .rowGroup | .row =>
      (b.leaveCaption?.map (again t)).getD b.done
    | .cell =>
      if tag = utf8 "td" then (b.leaveCaption?.map (again t)).getD b.done else b.readBody t
    | .select => (b.openSelectInTable tag attrs).done
    | _ => b.readBody t
  | .closing tag =>
    match TagRole.ofTag tag with
    | .caption => (b.leaveCaption?.getD b).done
    | .table => (b.leaveCaption?.map (again t)).getD b.done
    | .html | .column | .columnGroup | .rowGroup | .row | .cell => b.done
    | _ => if tag = utf8 "body" then b.done else b.readBody t
  | t => b.readBody t

/-- Leaves a group of columns with a token; elsewhere the token is passed over. -/
def leaveColumns (t : Token) (b : Builder) : Reading :=
  if b.current.role = .columnGroup then { b.pop with mode := .table }.again t else b.done

/-- A token in a group of columns. -/
def readColumns (t : Token) (b : Builder) : Reading :=
  match t with
  | .text s =>
    let white := s.takeWhile Text.isTagSpace
    let rest := s.drop white.length
    let b := b.insertText white
    if rest.isEmpty && !white.isEmpty then b.done else b.leaveColumns (.text rest)
  | .comment s => (b.insert (.comment s)).done
  | .opening tag attrs _ =>
    match TagRole.ofTag tag with
    | .html => b.done
    | .column => (b.addVoid tag attrs).done
    | .template => (b.openHead tag attrs).done
    | _ => b.leaveColumns t
  | .closing tag =>
    match TagRole.ofTag tag with
    | .columnGroup =>
      (if b.current.role = .columnGroup then { b.pop with mode := .table } else b).done
    | .column => b.done
    | .template => b.closeTemplate.done
    | _ => b.leaveColumns t

/-- Leaves a body of a table with a token, if one is in scope. -/
def leaveTableBody (t : Token) (b : Builder) : Reading :=
  match b.closeTo? .table (·.role = .rowGroup) with
  | some b => { b with mode := .table }.again t
  | none => b.done

/-- A token in a body of a table. -/
def readTableBody (t : Token) (b : Builder) : Reading :=
  match t with
  | .opening tag attrs _ =>
    match TagRole.ofTag tag with
    | .row => (b.openPart .rowGroup tag attrs .row).done
    | .cell => (b.openPart .rowGroup (utf8 "tr") [] .row).again t
    | .caption | .column | .columnGroup | .rowGroup => b.leaveTableBody t
    | _ => b.readTable t
  | .closing tag =>
    match TagRole.ofTag tag with
    | .rowGroup =>
      if b.inScope .table (·.tag = tag) then
        { (b.clearTo .rowGroup).pop with mode := .table }.done
      else b.done
    | .table => b.leaveTableBody t
    | .html | .caption | .column | .columnGroup | .row | .cell => b.done
    | _ => if tag = utf8 "body" then b.done else b.readTable t
  | t => b.readTable t

/-- Leaves a row, if one is in scope. -/
def leaveRow? (b : Builder) : Option Builder :=
  if b.inScope .table (·.role = .row) then
    some { (b.clearTo .row).pop with mode := .tableBody }
  else none

/-- A token in a row. -/
def readRow (t : Token) (b : Builder) : Reading :=
  match t with
  | .opening tag attrs _ =>
    match TagRole.ofTag tag with
    | .cell => (b.openPart .row tag attrs .cell).pushMarker.done
    | .caption | .column | .columnGroup | .rowGroup | .row =>
      (b.leaveRow?.map (again t)).getD b.done
    | _ => b.readTable t
  | .closing tag =>
    match TagRole.ofTag tag with
    | .row => (b.leaveRow?.getD b).done
    | .table => (b.leaveRow?.map (again t)).getD b.done
    | .rowGroup =>
      if b.inScope .table (·.tag = tag) then (b.leaveRow?.map (again t)).getD b.done else b.done
    | .html | .caption | .column | .columnGroup | .cell => b.done
    | _ => if tag = utf8 "body" then b.done else b.readTable t
  | t => b.readTable t

/-- Leaves a cell, if a target is in scope. -/
def leaveCell? (isTarget : OpenElement → Bool) (b : Builder) : Option Builder :=
  (b.closeTo? .table isTarget).map fun b => { b.clearFormatting with mode := .row }

/-- A token in a cell. -/
def readCell (t : Token) (b : Builder) : Reading :=
  match t with
  | .opening tag attrs _ =>
    match TagRole.ofTag tag with
    | .caption | .column | .columnGroup | .rowGroup | .row | .cell =>
      ((b.leaveCell? (·.role = .cell)).map (again t)).getD b.done
    | .select => (b.openSelectInTable tag attrs).done
    | _ => b.readBody t
  | .closing tag =>
    match TagRole.ofTag tag with
    | .cell => ((b.leaveCell? (·.tag = tag)).getD b).done
    | .html | .caption | .column | .columnGroup => b.done
    | .table | .rowGroup | .row =>
      if b.inScope .table (·.tag = tag) then
        ((b.leaveCell? (·.role = .cell)).getD { b with mode := .row }).again t
      else b.done
    | _ => if tag = utf8 "body" then b.done else b.readBody t
  | t => b.readBody t

end Builder

end SyntaxPlayground
