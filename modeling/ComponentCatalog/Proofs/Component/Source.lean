import ComponentCatalog.Component.Source
import ComponentCatalog.Proofs.Text.Encoding
import ComponentCatalog.Proofs.Text.Newline

namespace ComponentCatalog.Component

open Text (Ending Respelled spell)

variable {d d' : Disk} {p root : Path} {t s : List Char}

-- The file holds the text, with an ending of its own for each newline.
def Holds (d : Disk) (p : Path) (t : List Char) : Prop :=
  ∃ s, Respelled t s ∧ d.read? p = some (String.ofList s).toUTF8

theorem ofFile_of_read? (h : d.read? p = some (String.ofList s).toUTF8) :
    ofFile d p root = ofText p.stem (p.relativeTo d.cwd root) (Text.unifyNewlines s) := by
  rw [ofFile, ofContent, h, Option.bind_some, Text.fromUTF8?_toUTF8]
  simp only [String.toList_ofList]

theorem ofFile_of_holds (hr : '\r' ∉ t) (h : Holds d p t) :
    ofFile d p root = ofText p.stem (p.relativeTo d.cwd root) t := by
  obtain ⟨s, hs, hread⟩ := h
  rw [ofFile_of_read? hread, hs.unifyNewlines_eq hr]

-- However the newlines of the text end, files that hold it are read alike.
structure ReadAlike (t : List Char) : Prop where
  -- All newlines may end alike, in any of the ways.
  alike  : ∀ e d p, d.read? p = some (String.ofList (spell e t)).toUTF8 → Holds d p t
  record : ∀ d d' p root, Holds d p t → Holds d' p t → d'.cwd = d.cwd →
    (ofFile d' p root).check = (ofFile d p root).check
  text   : ∀ d p root, Holds d p t → ofFile d p root = ofText p.stem (p.relativeTo d.cwd root) t
  -- No other file is read as this text.
  only   : ∀ s, Text.unifyNewlines s = t ↔ Respelled t s

theorem endings_ignored (hr : '\r' ∉ t) : ReadAlike t where
  alike e _ _ h            := ⟨spell e t, Text.respelled_spell e t, h⟩
  record _ _ _ _ h h' hcwd := by rw [ofFile_of_holds hr h, ofFile_of_holds hr h', hcwd]
  text _ _ _ h             := ofFile_of_holds hr h
  only _                   := by rw [Text.unifyNewlines_eq_iff, and_iff_right hr]

def box : List Char :=
  "import a from 'a';\n\ninterface BoxProps \x7b\n  a: string\n  b?: number\n\x7d\n".toList

-- All endings occur, and a lone CR before a CRLF.
def mixedBox : List Char :=
  "import a from 'a';\r\r\ninterface BoxProps \x7b\n  a: string\r  b?: number\r\n\x7d\r".toList

def boxed (content : List Char) : Disk where
  root := .folder [("Box.tsx", .file (String.ofList content).toUTF8)]
  cwd  := []

theorem endings_ignored_box :
    '\r' ∉ box ∧ ReadAlike box ∧ Holds (boxed mixedBox) ⟨.none, ["Box.tsx"]⟩ box ∧
      ofFile (boxed mixedBox) ⟨.none, ["Box.tsx"]⟩ ⟨.none, []⟩ = {
        name         := "Box"
        path         := "Box.tsx"
        props        := .ofList [("a", ⟨"string", false⟩), ("b", ⟨"number", true⟩)]
        usage        := "<Box a=\"example\" />"
        dependencies := ["a"] } := by
  have hr : '\r' ∉ box := by decide
  have ha : ReadAlike box := endings_ignored hr
  have hm : Respelled box mixedBox := (ha.only mixedBox).mp (by decide +kernel)
  have hh : Holds (boxed mixedBox) ⟨.none, ["Box.tsx"]⟩ box := ⟨mixedBox, hm, rfl⟩
  refine ⟨hr, ha, hh, (ha.text _ _ _ hh).trans ?_⟩
  decide +kernel

end ComponentCatalog.Component
