import NetDesign.Text.Blank

set_option autoImplicit false

namespace NetDesign

/-- The name a device gives itself. Routing daemons reject dots and white space, so each becomes
an underscore. -/
def hostname (label : String) : String :=
  label.map fun c => if c = '.' || Text.isBlank c then '_' else c

/-- A label that is safe in a path: all but ASCII letters, digits, `-` and `_` become
underscores. -/
def folderName (label : String) : String :=
  label.map fun c => if c.isAlphanum || c = '-' || c = '_' then c else '_'

/-- No hostname holds a dot or white space, whatever the label. -/
theorem not_dot_or_blank_of_mem_hostname {label : String} {c : Char}
    (mem : c ∈ (hostname label).toList) : c ≠ '.' ∧ Text.isBlank c = false := by
  simp only [hostname, String.toList_map, List.mem_map] at mem
  obtain ⟨d, -, rfl⟩ := mem
  split
  · exact ⟨by decide, by decide⟩
  · simp_all

end NetDesign
