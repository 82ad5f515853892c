import IngestViewer.PhraseTable
import IngestViewer.Segments

namespace IngestViewer

/-- The form in which locale tags are compared: without an encoding suffix, with hyphens for
underscores, in small letters. -/
def normalTag (tag : String) : String :=
  let cs := tag.toList.takeWhile (· != '.')
  String.ofList (cs.map fun c => if c = '_' then '-' else c.toLower)

/-- The part of a tag that names the language. -/
def languageOf (tag : String) : String :=
  String.ofList (tag.toList.takeWhile (· != '-'))

/-- Phrase tables by locale, the latest registration first, and a table for all other locales. -/
structure LocaleRegistry where
  tables : List (String × PhraseTable)
  default : PhraseTable

namespace LocaleRegistry

def register (r : LocaleRegistry) (tag : String) (table : PhraseTable) : LocaleRegistry :=
  { r with tables := (normalTag tag, table) :: r.tables }

/-- A registry of one table, which is also the one for all other locales. -/
def empty (tag : String) (table : PhraseTable) : LocaleRegistry :=
  register ⟨[], table⟩ tag table

def defaultTag : String := "en-US"

def builtin : LocaleRegistry :=
  (((empty defaultTag .english).register "en" .english).register "de-DE" .german).register
    "de" .german

/-- The table of a locale, or else of its language, or else the one for all other locales. -/
def resolve (r : LocaleRegistry) (tag : String) : PhraseTable :=
  let tag := normalTag tag
  ((r.tables.lookup tag).or (r.tables.lookup (languageOf tag))).getD r.default

end LocaleRegistry

end IngestViewer
