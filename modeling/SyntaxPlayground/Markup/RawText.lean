import SyntaxPlayground.Markup.TagRole

/-!
# Text without tags

The content of a script, a style sheet or a text area is text up to the end tag of its element. In a
script the end tag can be hidden: inside `<!--` a script may open and close another one. What watches
for the end reads one byte at a time.
-/

namespace SyntaxPlayground

namespace Text

/-- White space between the parts of a tag. -/
def isTagSpace (b : UInt8) : Bool :=
  b == 32 || b == 10 || b == 13 || b == 9 || b == 12

/-- Whether a byte ends the name of a tag. -/
def endsTagName (b : UInt8) : Bool :=
  isTagSpace b || b == 47 || b == 62

end Text

/-- How deep a script is hidden. -/
inductive ScriptDepth where
  /-- Not at all. -/
  | plain
  /-- After `<!--`. -/
  | hidden
  /-- After `<!--` and a further opening tag. -/
  | nested
deriving DecidableEq, Repr

/-- What was just read of a script. -/
inductive ScriptMark where
  | nothing
  /-- A `<`. -/
  | less
  /-- A `</` and the beginning of the name; the rest of it is still to come. -/
  | closing (rest : Text)
  /-- A `<` and the beginning of the name; the rest of it is still to come. -/
  | opening (rest : Text)
  /-- A `<!`. -/
  | bang
  /-- A `<!-`. -/
  | bangDash
  /-- A dash. -/
  | dash
  /-- Two dashes or more. -/
  | dashes
deriving DecidableEq, Repr

/-- What watches for the end of text without tags. -/
inductive Watch where
  /-- For an end tag; the rest of the end tag is still to come. -/
  | endTag (rest : Text)
  /-- For the end of a script. -/
  | script (depth : ScriptDepth) (mark : ScriptMark)
  /-- For nothing: the text goes on to the end. -/
  | never
deriving DecidableEq, Repr

namespace Watch

/-- The beginning of an end tag. -/
def endOf (tag : Text) : Text :=
  utf8 "</" ++ tag

/-- The name of a script. -/
def scriptTag : Text := utf8 "script"

/-- The watch at the beginning of an element. -/
def ofTag (tag : Text) : Watch :=
  if tag = utf8 "plaintext" then .never
  else if tag = scriptTag then .script .plain .nothing
  else .endTag (endOf tag)

/-- Reads a byte where nothing has begun. -/
def restart (depth : ScriptDepth) (b : UInt8) : Watch :=
  if b = 60 then .script depth .less
  else if b = 45 ∧ depth ≠ .plain then .script depth .dash
  else .script depth .nothing

/-- Reads one byte of a script; nothing if the byte comes right after the end tag's name. -/
def stepScript (depth : ScriptDepth) (mark : ScriptMark) (b : UInt8) : Option Watch :=
  match mark with
  | .nothing => some (restart depth b)
  | .less =>
    if b = 47 then some (.script depth (.closing scriptTag))
    else
      match depth with
      | .plain => some (if b = 33 then .script .plain .bang else restart .plain b)
      | .hidden =>
        if Text.isLetter b then
          some (if Text.lowerByte b = 115 then .script .hidden (.opening (scriptTag.drop 1))
            else restart .hidden b)
        else some (restart .plain b)
      | .nested => some (restart .nested b)
  | .closing [] =>
    if Text.endsTagName b then
      match depth with
      | .nested => some (.script .hidden .nothing)
      | _ => none
    else some (restart depth b)
  | .closing (p :: rest) =>
    some (if Text.lowerByte b = p then .script depth (.closing rest) else restart depth b)
  | .opening [] =>
    some (if Text.endsTagName b then .script .nested .nothing else restart depth b)
  | .opening (p :: rest) =>
    some (if Text.lowerByte b = p then .script depth (.opening rest) else restart depth b)
  | .bang => some (if b = 45 then .script .plain .bangDash else restart .plain b)
  | .bangDash => some (if b = 45 then .script .hidden .dashes else restart .plain b)
  | .dash => some (if b = 45 then .script depth .dashes else restart depth b)
  | .dashes =>
    some (if b = 45 then .script depth .dashes
      else if b = 62 then .script .plain .nothing
      else restart depth b)

/-- Reads one byte of the content of `tag`; nothing if the byte comes right after the name in its end
tag. -/
def step (tag : Text) (w : Watch) (b : UInt8) : Option Watch :=
  let again := Watch.endTag (if b = 60 then (endOf tag).drop 1 else endOf tag)
  match w with
  | .endTag [] => if Text.endsTagName b then none else some again
  | .endTag (p :: rest) => some (if Text.lowerByte b = p then .endTag rest else again)
  | .script depth mark => stepScript depth mark b
  | .never => some .never

end Watch

end SyntaxPlayground
