import Paradigm.Data.Load
import Paradigm.Proofs.Yaml.Blank

/-!
# Repositories from files

A file is read like its text, but for one kind of text: white space that is not all space to YAML.
Such a file is taken for an empty one, while its text is no repository. Main statement:
`Repository.load_cases`.
-/

namespace Paradigm

namespace Yaml

/-! ## Documents without a repository -/

namespace Document

theorem ofText?_of_layout {text : String} (layout : ∀ c ∈ text.toList, isLayout c) :
    ofText? text = some ⟨.missing, []⟩ := by
  simp only [ofText?, Token.ofText?_of_layout layout]
  rfl

theorem root_of_scalar {text : String} {d : Document} {body : List Char} {others : List Token}
    (tokens : Token.ofText? text.toList = some (.scalar body true :: others))
    (h : ofText? text = some d) : d.root = .scalar none (String.ofList body) true := by
  rw [ofText?, tokens] at h
  obtain ⟨_, same, h⟩ := Option.bind_eq_some_iff.mp h
  cases same
  obtain ⟨⟨root, c⟩, ran, same⟩ := Option.bind_eq_some_iff.mp h
  cases same
  -- the node is there by computation; only what follows it may still be refused
  obtain ⟨_, _, finished⟩ := Option.bind_eq_some_iff.mp ran
  cases finished
  rfl

theorem entries?_of_scalar {d : Document} {text : String}
    (root : d.root = .scalar none text true) (some_text : text ≠ "") :
    d.entries? d.root = none := by
  have resolved : d.resolve? d.root = some (.scalar none text true) := by
    rw [root]
    rfl
  rw [entries?, resolved]
  split
  · rename_i same
    cases same
  · rename_i same
    cases same
    exact absurd rfl some_text
  · rfl

end Document

end Yaml

/-! ## Repositories -/

namespace Repository

theorem ofYaml?_of_layout {text : String} (layout : ∀ c ∈ text.toList, Yaml.isLayout c) :
    ofYaml? text = some .empty := by
  rw [ofYaml?, Yaml.read?, Yaml.Document.ofText?_of_layout layout]
  rfl

theorem ofYaml?_of_solid {text : String} (blank : Data.isBlank text) {c : Char}
    (member : c ∈ text.toList) (solid : Yaml.isLayout c = false) : ofYaml? text = none := by
  have spaces : ∀ c ∈ text.toList, Unicode.isSpace c := by simpa [Data.isBlank] using blank
  cases read : Yaml.Document.ofText? text with
  | none => simp [ofYaml?, Yaml.read?, read]
  | some d =>
      cases scanned : Yaml.Token.ofText? text.toList with
      | none => simp [Yaml.Document.ofText?, scanned] at read
      | some tokens =>
          obtain ⟨body, others, some_body, rfl⟩ :=
            Yaml.Token.of_ofText?_of_solid spaces member solid scanned
          have noEntries := Yaml.Document.entries?_of_scalar
            (Yaml.Document.root_of_scalar scanned read) (by simpa using some_body)
          simp [ofYaml?, Yaml.read?, read, Yaml.Document.map?, noEntries]

/-! ## Files -/

/-- White space, but not all of it is space to YAML. -/
def IsOddlyBlank (text : String) : Prop :=
  Data.isBlank text ∧ ∃ c ∈ text.toList, Yaml.isLayout c = false

variable {read : FileReader Id} {path text : String}

theorem load_of_text (h : read path = .ok text) :
    load read path = Data.ofText .empty ofYaml? path text := by
  show Data.ofReading .empty ofYaml? path (read path) = _
  rw [h]
  rfl

theorem isLayout_of_not_oddlyBlank (even : ¬ IsOddlyBlank text) (blank : Data.isBlank text) :
    ∀ c ∈ text.toList, Yaml.isLayout c := by
  intro c member
  cases solid : Yaml.isLayout c with
  | true => rfl
  | false => exact absurd ⟨blank, c, member, solid⟩ even

/-- A file is read like its text, to the same repository or not at all. White space that is not all
space to YAML makes the one difference. -/
theorem load_cases (h : read path = .ok text) :
    (¬ IsOddlyBlank text →
      load read path = (ofYaml? text).elim (.error (.malformed path)) .ok) ∧
    (IsOddlyBlank text → load read path = .ok .empty ∧ ofYaml? text = none) := by
  rw [load_of_text h, Data.ofText]
  constructor
  · intro even
    cases blank : Data.isBlank text with
    | true =>
        rw [ofYaml?_of_layout (isLayout_of_not_oddlyBlank even blank)]
        rfl
    | false => cases ofYaml? text <;> rfl
  · rintro ⟨blank, c, member, solid⟩
    exact ⟨if_pos blank, ofYaml?_of_solid blank member solid⟩

theorem load_line_break_and_ideographic_space :
    load (m := Id) (fun _ => .ok " \n") "rules.yaml" = .ok .empty ∧
      load (m := Id) (fun _ => .ok "\u3000") "rules.yaml" = .ok .empty ∧
      ofYaml? "\u3000" = none := by
  have even : ¬ IsOddlyBlank " \n" := by
    rintro ⟨-, c, member, solid⟩
    have cases_c : c = ' ' ∨ c = '\n' := by simpa using member
    rcases cases_c with rfl | rfl <;> simp [Yaml.isLayout, Yaml.isBreak] at solid
  have odd : IsOddlyBlank "\u3000" := ⟨by decide +kernel, '\u3000', by simp, by decide⟩
  have layout : ofYaml? " \n" = some .empty :=
    ofYaml?_of_layout (by simp [Yaml.isLayout, Yaml.isBreak])
  have read : load (m := Id) (fun _ => .ok " \n") "rules.yaml" = _ := (load_cases rfl).1 even
  exact ⟨read.trans (by rw [layout]; rfl), (load_cases rfl).2 odd⟩

/-- The text of a tab alone is not YAML, and a file with nothing else in it is read nevertheless. -/
theorem load_tab : load (m := Id) (fun _ => .ok "\t") "rules.yaml" = .ok .empty ∧
    ofYaml? "\t" = none := by
  have blank : Data.isBlank "\t" := by decide +kernel
  have read : load (m := Id) (fun _ => .ok "\t") "rules.yaml" =
      Data.ofText .empty ofYaml? "rules.yaml" "\t" := load_of_text rfl
  have solid : Yaml.isLayout '\t' = false := by decide
  exact ⟨read.trans (if_pos blank), ofYaml?_of_solid blank (by simp) solid⟩

end Repository

end Paradigm
