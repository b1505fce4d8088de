import LocaleSite.Proofs.Definition.Variables
import LocaleSite.Proofs.World

/-!
# Reading the definition of a site

A file is read as text, as a document and as a definition, and variables are put into it.
`SiteDefinition.FileFault` lists the ways in which this fails; each takes for granted that the
stages before have passed.
-/

namespace LocaleSite

namespace SiteDefinition

/-- The file is the text of a document that has the shape of a definition. -/
def Writes (entry : FileEntry) (written : SiteDefinition) : Prop :=
  ∃ text value, entry = .file text.toUTF8 ∧ Toml.read? text = some value ∧
    shape .toml value = .ok written

/-- How a file fails to give a definition. -/
inductive FileFault (world : World) (entry : FileEntry) : ConfigError → Prop where
  | directory (isDirectory : entry = .directory) : FileFault world entry (.file .isDirectory)
  | unreadable {reason : String} (refused : entry = .unreadable reason) :
      FileFault world entry (.file (.unreadable reason))
  | notText {content : ByteArray} (isFile : entry = .file content)
      (undecodable : ∀ text : String, content ≠ text.toUTF8) :
      FileFault world entry (.file .notText)
  | malformed {text : String} (isText : entry = .file text.toUTF8)
      (unread : Toml.read? text = none) : FileFault world entry .malformed
  | shape {text : String} {value : Value} {error : ShapeError}
      (isText : entry = .file text.toUTF8) (read : Toml.read? text = some value)
      (misfit : SiteDefinition.shape .toml value = .error error) :
      FileFault world entry (.shape error)
  | unset {written : SiteDefinition} {field : String} {reference : Expansion.Unset}
      (writes : Writes entry written) (missing : FirstUnset world.text? written field reference) :
      FileFault world entry (.unset field reference)

theorem textOf_eq_ok_iff {entry : FileEntry} {text : String} :
    textOf entry = .ok text ↔ entry = .file text.toUTF8 := by
  cases entry with
  | directory => simp [textOf]
  | unreadable reason => simp [textOf]
  | file content =>
      rw [textOf, FileEntry.file.injEq, ← World.fromUTF8?_eq_some_iff]
      cases String.fromUTF8? content <;> simp

theorem textOf_of_undecodable {content : ByteArray}
    (undecodable : ∀ text : String, content ≠ text.toUTF8) :
    textOf (.file content) = .error .notText := by
  cases read : textOf (.file content) with
  | ok text =>
      cases textOf_eq_ok_iff.1 read
      exact absurd rfl (undecodable text)
  | error error =>
      rw [textOf] at read
      split at read
      · cases read
      · exact read.symm

theorem fileFault_of_textOf {world : World} {entry : FileEntry} {error : FileError}
    (failed : textOf entry = .error error) : FileFault world entry (.file error) := by
  cases entry with
  | directory =>
      cases failed
      exact .directory rfl
  | unreadable reason =>
      cases failed
      exact .unreadable rfl
  | file content =>
      have undecodable : ∀ text : String, content ≠ text.toUTF8 := by
        rintro text rfl
        rw [textOf_eq_ok_iff.2 rfl] at failed
        cases failed
      rw [textOf_of_undecodable undecodable] at failed
      cases failed
      exact .notText rfl undecodable

theorem ofText_eq_ok_iff {text : String} {written : SiteDefinition} :
    ofText text = .ok written ↔
      ∃ value, Toml.read? text = some value ∧ shape .toml value = .ok written := by
  unfold ofText
  cases Toml.read? text <;> simp

section File

variable {world : World} {path : String} {entry : FileEntry}

theorem ofFile_eq_ok_iff {definition : SiteDefinition} :
    ofFile world path entry = .ok definition ↔
      ∃ written expanded, Writes entry written ∧ Expanded world.text? written expanded ∧
        definition = { expanded with configPath := some path } := by
  simp only [ofFile, Outcome.bind_eq_ok_iff, Outcome.mapError_eq_ok_iff, textOf_eq_ok_iff,
    ofText_eq_ok_iff, expand_eq_ok_iff, Outcome.pure_eq_ok_iff, Writes]
  constructor
  · rintro ⟨text, isText, written, ⟨value, read, fits⟩, expanded, expands, same⟩
    exact ⟨written, expanded, ⟨text, value, isText, read, fits⟩, expands, same⟩
  · rintro ⟨written, expanded, ⟨text, value, isText, read, fits⟩, expands, same⟩
    exact ⟨text, isText, written, ⟨value, read, fits⟩, expanded, expands, same⟩

theorem fileFault_of_ofFile {error : ConfigError}
    (failed : ofFile world path entry = .error error) : FileFault world entry error := by
  simp only [ofFile, Outcome.bind_eq_error_iff, Outcome.mapError_eq_error_iff] at failed
  rcases failed with ⟨fault, unreadable, rfl⟩ | ⟨text, isText, failed⟩
  · exact fileFault_of_textOf unreadable
  · rw [Outcome.mapError_eq_ok_iff, textOf_eq_ok_iff] at isText
    rcases failed with misfit | ⟨written, fits, missing | ⟨_, _, returned⟩⟩
    · rw [ofText] at misfit
      split at misfit
      · rename_i unread
        cases misfit
        exact .malformed isText unread
      · rename_i value read
        rcases Outcome.mapError_eq_error_iff.1 misfit with ⟨fault, misfits, rfl⟩
        exact .shape isText read misfits
    · rcases ofText_eq_ok_iff.1 fits with ⟨value, read, fits⟩
      rcases expand_eq_error_iff.1 missing with ⟨field, reference, firstUnset, rfl⟩
      exact .unset ⟨text, value, isText, read, fits⟩ firstUnset
    · cases returned

theorem FileFault.ofFile_eq {error : ConfigError} (fault : FileFault world entry error)
    (path : String) : ofFile world path entry = .error error := by
  cases fault with
  | directory isDirectory =>
      subst isDirectory
      rfl
  | unreadable refused =>
      subst refused
      rfl
  | notText isFile undecodable =>
      rw [ofFile, isFile, textOf_of_undecodable undecodable]
      rfl
  | malformed isText unread =>
      rw [ofFile, textOf_eq_ok_iff.2 isText]
      simp [ofText, unread, Except.mapError, bind, Except.bind]
  | shape isText read misfit =>
      rw [ofFile, textOf_eq_ok_iff.2 isText]
      simp [ofText, read, misfit, Except.mapError, bind, Except.bind]
  | unset writes missing =>
      rcases writes with ⟨text, value, isText, read, fits⟩
      have unexpanded := expand_eq_error_iff.2 ⟨_, _, missing, rfl⟩
      rw [ofFile, textOf_eq_ok_iff.2 isText]
      simp [ofText, read, fits, unexpanded, Except.mapError, bind, Except.bind]

end File

end SiteDefinition

end LocaleSite
