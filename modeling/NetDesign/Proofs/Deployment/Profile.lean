import NetDesign.Deployment.Lab
import NetDesign.Deployment.Profile
import NetDesign.Proofs.Address.Text

set_option autoImplicit false

namespace NetDesign

/-- The code points with the Unicode property `White_Space`. -/
def whiteSpace : List Nat :=
  [0x9, 0xA, 0xB, 0xC, 0xD, 0x20, 0x85, 0xA0, 0x1680, 0x2000, 0x2001, 0x2002, 0x2003, 0x2004,
    0x2005, 0x2006, 0x2007, 0x2008, 0x2009, 0x200A, 0x2028, 0x2029, 0x202F, 0x205F, 0x3000]

theorem isBlank_iff (c : Char) : Text.isBlank c ↔ c.toNat ∈ whiteSpace := by
  simp only [Text.isBlank, Text.blankRanges, whiteSpace, List.any_cons, List.any_nil,
    Bool.or_eq_true, Bool.and_eq_true, decide_eq_true_eq, Bool.false_eq_true, List.mem_cons,
    List.not_mem_nil, or_false]
  constructor
  · intro inside
    omega
  · intro listed
    omega

theorem isAlphanum_iff (c : Char) :
    c.isAlphanum ↔ 'a' ≤ c ∧ c ≤ 'z' ∨ 'A' ≤ c ∧ c ≤ 'Z' ∨ '0' ≤ c ∧ c ≤ '9' := by
  have upper : c.isUpper ↔ 'A' ≤ c ∧ c ≤ 'Z' := decide_eq_true_iff
  have lower : c.isLower ↔ 'a' ≤ c ∧ c ≤ 'z' :=
    Bool.and_eq_true_iff.trans (and_congr decide_eq_true_iff decide_eq_true_iff)
  have digit : c.isDigit ↔ '0' ≤ c ∧ c ≤ '9' :=
    Bool.and_eq_true_iff.trans (and_congr decide_eq_true_iff decide_eq_true_iff)
  have alpha : c.isAlpha ↔ c.isUpper ∨ c.isLower := Bool.or_eq_true_iff
  have alphanum : c.isAlphanum ↔ c.isAlpha ∨ c.isDigit := Bool.or_eq_true_iff
  rw [alphanum, alpha, upper, lower, digit, or_assoc, or_left_comm]

/-- Where a file is written: its folder and its name. -/
def RenderTarget.destination (target : RenderTarget) : String × String :=
  (target.folder, target.file)

namespace Platform

variable {p q : Platform}

theorem slash_not_mem_word (p : Platform) : '/' ∉ p.word.toList := by cases p <;> decide

theorem word_injective (same : p.word = q.word) : p = q := by
  cases p <;> cases q <;> first | rfl | exact absurd same (by decide)

/-- The folder of a host, in which each platform has its own. -/
def hostFolder (p : Platform) (root host timestamp : String) : String :=
  match p with
  | cisco => root ++ "/" ++ host ++ "_" ++ timestamp
  | junosphere | netkit | dynagen => root ++ "/" ++ host

theorem folder_eq (p : Platform) (root host timestamp : String) :
    p.folder root host timestamp = p.hostFolder root host timestamp ++ "/" ++ p.word := by
  cases p <;> rfl

theorem hostFolder_eq_iff {root timestamp h k : String} :
    p.hostFolder root h timestamp = p.hostFolder root k timestamp ↔ h = k := by
  cases p <;> simp [hostFolder, String.append_left_inj, String.append_right_inj]

theorem folder_eq_iff {root timestamp h k : String} :
    p.folder root h timestamp = q.folder root k timestamp ↔ p = q ∧ h = k := by
  have slash : "/".toList = ['/'] := rfl
  rw [folder_eq, folder_eq, ← String.toList_inj]
  simp only [String.toList_append, List.append_assoc, slash, List.singleton_append]
  rw [append_separator_inj p.slash_not_mem_word q.slash_not_mem_word, String.toList_inj,
    String.toList_inj]
  constructor
  · rintro ⟨folders, words⟩
    cases word_injective words
    exact ⟨rfl, hostFolder_eq_iff.mp folders⟩
  · rintro ⟨rfl, rfl⟩
    exact ⟨rfl, rfl⟩

/-- What becomes of a character in the names of the files of a device. On Netkit and Cisco, where
they follow the hostname, only dots and white space are replaced. -/
def fileChar (p : Platform) (c : Char) : Char :=
  match p with
  | netkit | cisco => if c = '.' ∨ c.toNat ∈ whiteSpace then '_' else c
  | junosphere | dynagen =>
    if ('a' ≤ c ∧ c ≤ 'z' ∨ 'A' ≤ c ∧ c ≤ 'Z' ∨ '0' ≤ c ∧ c ≤ '9') ∨ c = '-' ∨ c = '_' then c
    else '_'

/-- The normal form of a label on a platform, character by character. -/
def normalForm (p : Platform) (label : String) : String := label.map p.fileChar

theorem fileStem_eq (p : Platform) (label : String) : p.fileStem label = p.normalForm label := by
  cases p with
  | netkit | cisco =>
    apply congrArg (String.map · label)
    funext c
    simp only [fileChar, Bool.or_eq_true, decide_eq_true_eq, isBlank_iff]
  | junosphere | dynagen =>
    apply congrArg (String.map · label)
    funext c
    simp only [fileChar, Bool.or_eq_true, decide_eq_true_eq, isAlphanum_iff, or_assoc]

theorem fileName_eq_iff {a b : String} :
    p.fileName a = p.fileName b ↔ p.normalForm a = p.normalForm b := by
  rw [← fileStem_eq, ← fileStem_eq]
  cases p <;> exact String.append_left_inj _

theorem fileName_ne_lab (label : String) : netkit.fileName label ≠ "lab.conf" := by
  intro same
  have letters := congrArg (fun s : String => s.toList.getLast?) same
  simp [fileName] at letters

/-- Where the platform has the configuration of a device written. -/
def destination (p : Platform) (settings : Settings) (host timestamp label : String) :
    String × String :=
  (p.folder settings.outputRoot host timestamp, p.fileName label)

variable {settings : Settings} {timestamp h k a b : String}

theorem destination_renderTarget (p : Platform) (settings : Settings)
    (host timestamp template label : String) :
    (p.renderTarget settings host timestamp template label).destination =
      p.destination settings host timestamp label := by
  cases p <;> rfl

theorem destination_eq_iff :
    p.destination settings h timestamp a = q.destination settings k timestamp b ↔
      p = q ∧ h = k ∧ p.normalForm a = p.normalForm b := by
  rw [destination, destination, Prod.mk.injEq, folder_eq_iff, and_assoc]
  refine and_congr_right fun same => and_congr_right fun _ => ?_
  rw [← same]
  exact fileName_eq_iff

/-- The description of a lab stands in a folder of emulated machines, and their files have another
ending. -/
theorem destination_ne_lab :
    p.destination settings h timestamp a ≠
      (netkit.folder settings.outputRoot k timestamp, "lab.conf") := by
  intro same
  obtain ⟨folders, files⟩ := Prod.mk.inj same
  obtain ⟨rfl, -⟩ := folder_eq_iff.mp folders
  exact fileName_ne_lab a files

end Platform

end NetDesign
