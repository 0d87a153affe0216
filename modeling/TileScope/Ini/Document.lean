/-!
# Settings documents

A document is a row of sections, each a name and a row of properties. Names may come again, of
sections as well as of keys: where one is looked up, the first wins. Properties in front of the
first heading belong to a section without a name.
-/

namespace TileScope.Ini

/-- What stands between two headings. -/
structure Section where
  name : Option String
  properties : List (String × String)
deriving DecidableEq, Repr

/-- The first value of a key. -/
def Section.value? (s : Section) (key : String) : Option String :=
  (s.properties.find? (·.1 = key)).map (·.2)

/-- A settings document. -/
structure Document where
  sections : List Section := []
deriving DecidableEq, Repr

namespace Document

/-- The first section of a name. -/
def section? (d : Document) (name : String) : Option Section :=
  d.sections.find? (·.name = some name)

/-- The value of a key of a section. -/
def value? (d : Document) (name key : String) : Option String :=
  (d.section? name).bind (·.value? key)

end Document

/-- What a document is written as: headings and properties. -/
inductive Item where
  | heading (name : String)
  | property (key value : String)
deriving DecidableEq, Repr

/-- The properties up to the next heading, and the sections from there on. -/
def sectionsOf : List Item → List (String × String) × List Section
  | [] => ([], [])
  | .property key value :: rest =>
    let (properties, sections) := sectionsOf rest
    ((key, value) :: properties, sections)
  | .heading name :: rest =>
    let (properties, sections) := sectionsOf rest
    ([], ⟨some name, properties⟩ :: sections)

/-- The document made of a row of items. -/
def Document.ofItems (items : List Item) : Document :=
  let (properties, sections) := sectionsOf items
  { sections := if properties.isEmpty then sections else ⟨none, properties⟩ :: sections }

end TileScope.Ini
