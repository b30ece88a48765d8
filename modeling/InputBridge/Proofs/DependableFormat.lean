import InputBridge.Toml.Format
/-!
# What is relied on of a format

A format can be depended on if it writes every document that can be written, and reads back from
the text what the sections said. This is what a library for TOML documents promises, and it is all
that is taken for granted where settings are kept in a document: neither the spelling of texts and
numbers nor the order in which the tables come back is.

`Writable` is asked of the sections in turn. Names stand without quotes, no two of them are the
same where they stand together, and numbers fit into sixty-four bits.
-/
namespace InputBridge.Toml

/-- The value that a scalar is written for. -/
def Scalar.toValue : Scalar → Value
  | .text content => .string content
  | .number value => .integer value

/-- A scalar that can be read: a number fits into sixty-four bits. -/
def Scalar.Fits : Scalar → Prop
  | .text _ => True
  | .number value => value ≤ 9223372036854775807

/-- A name that stands without quotes. -/
def BareKey (name : String) : Prop :=
  name.toList ≠ [] ∧ ∀ c ∈ name.toList, isBareKey c = true

instance (name : String) : Decidable (BareKey name) :=
  decidable_of_iff (name.toList ≠ [] ∧ name.toList.all isBareKey = true)
    (and_congr_right' List.all_eq_true)

/-- A section that can be read: its names stand without quotes, no two of its keys are the same,
and its numbers fit. -/
structure Section.Writable (part : Section) : Prop where
  name : BareKey part.name
  entries : ∀ entry ∈ part.entries, BareKey entry.1 ∧ entry.2.Fits
  distinct : (part.entries.map Prod.fst).Nodup

/-- Sections that make up a document: each can be read, and no two have the same name. -/
structure Writable (sections : List Section) : Prop where
  parts : ∀ part ∈ sections, part.Writable
  distinct : (sections.map Section.name).Nodup

/-- A document tells what sections say: under the name of every section there is a table, with the
values of the section under its keys and nothing under any other key. -/
def Tells (document : List (String × Value)) (sections : List Section) : Prop :=
  ∀ part ∈ sections, ∃ entries, lookup part.name document = some (.table entries) ∧
    ∀ key, lookup key entries = (lookup key part.entries).map Scalar.toValue

/-- A format that can be depended on. -/
structure Format.Dependable (format : Format) : Prop where
  /-- Whatever can be written is written. -/
  writes : ∀ sections, Writable sections → ∃ text, format.write sections = some text
  /-- What is written reads back. -/
  reads : ∀ sections text, Writable sections → format.write sections = some text →
    ∃ document, format.read text = some document ∧ Tells document sections

end InputBridge.Toml
