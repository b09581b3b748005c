import FormEditor.Registry.Basic
import FormEditor.Text.Blank
import FormEditor.Unicode.Case

/-! The palette offers the registered types by category. A search keeps the types whose name or category holds
the searched text, whatever the case of its letters and the blanks around it. Categories stand in the order
in which the registry first names them, types in the order of the registry. -/

namespace FormEditor

structure PaletteEntry where
  type : ElementType
  name : String
  icon : String
  deriving DecidableEq

structure PaletteGroup where
  category : String
  entries : List PaletteEntry
  deriving DecidableEq

/-- A tag as a caption: separators become blanks and the first letter is capital. Tags are ASCII. -/
def ElementType.caption (type : ElementType) : String :=
  let spaced := type.tag.toList.map fun char => if char = '_' then ' ' else char
  match Text.trimChars spaced with
  | [] => ""
  | first :: rest => String.ofList (first.toUpper :: rest)

namespace Definition

/-- The name of a type in the palette: its default label or else its default content, if not empty, or else
the caption of its tag. -/
def displayName (definition : Definition) (type : ElementType) : String :=
  let filled (text : Option String) : Option String := text.filter (· ≠ "")
  (filled definition.defaultProps.label <|> filled definition.defaultProps.content).getD type.caption

/-- The category of definitions without one. -/
def fallbackCategory : String := "Other"

def paletteCategory (definition : Definition) : String :=
  if definition.category = "" then fallbackCategory else definition.category

def paletteEntry (definition : Definition) (type : ElementType) : PaletteEntry :=
  { type, name := definition.displayName type, icon := definition.icon }

end Definition

/-- Whether a text holds a searched text, given in lower case. -/
def Text.matchesSearch (needle : List Char) (text : String) : Bool :=
  Text.occursIn needle (Unicode.lowercase text.toList)

namespace PaletteGroup

/-- Puts an entry at the end of the group of its category, or into a group of its own after all others. -/
def put (category : String) (entry : PaletteEntry) : List PaletteGroup → List PaletteGroup
  | [] => [⟨category, [entry]⟩]
  | group :: groups =>
    if group.category = category then { group with entries := group.entries ++ [entry] } :: groups
    else group :: put category entry groups

/-- Puts entries of one category together, the categories in the order of their first entries. -/
def gather (items : List (String × PaletteEntry)) : List PaletteGroup :=
  items.foldl (fun groups (category, entry) => put category entry groups) []

end PaletteGroup

namespace Registry

/-- What is looked for when a text is searched: the text in lower case without the blanks around it. -/
def needle (search : String) : List Char :=
  Unicode.lowercase (Text.trimChars search.toList)

/-- The entries that a search keeps, each with its category. -/
def paletteItems (registry : Registry) (search : String) : List (String × PaletteEntry) :=
  (registry.entries.map fun (type, definition) =>
    (definition.paletteCategory, definition.paletteEntry type)).filter fun (category, entry) =>
      (needle search).isEmpty || Text.matchesSearch (needle search) entry.name
        || Text.matchesSearch (needle search) category

def searchPalette (registry : Registry) (search : String) : List PaletteGroup :=
  PaletteGroup.gather (registry.paletteItems search)

/-- The whole palette. -/
def palette (registry : Registry) : List PaletteGroup :=
  registry.searchPalette ""

end Registry

end FormEditor
