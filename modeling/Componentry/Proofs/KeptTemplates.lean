import Componentry.Proofs.FileRoom
import Componentry.Proofs.LineEnds
import Componentry.Proofs.UserFiles

/-!
# Templates of user files

A user file is written once, and the latest text for it is kept as a template. The template is
written unless it has the text already, and its text is read with its line ends unified. So a
template that differs from the text in its line ends only is not written; it keeps its carriage
returns. In every other case the files are those that are left if the template is always written.
-/

namespace Componentry

open Files (Path Place Plan Tree Change)

/-- The text of a file that is there. -/
theorem Files.Change.readText_of_opens {t : Tree} {p : Path} {f : Place} (room : t.Opens p f)
    {text : String} (here : t.get? f = some (.file text.toUTF8)) :
    readText p t = .ok (Text.unified text) t := by
  rw [readText, bind_of_ok (readBytes_of_opens room here), Text.ofFile?_toUTF8]
  rfl

/-- What an operation gives, and how it changes the files, whatever else there is. -/
def Work.Does {α : Type} (x : Work α) (t : Tree) (a : α) (t' : Tree) : Prop :=
  ∀ s : Store, s.files = t → ∃ s', x s = .ok a s' ∧ s'.files = t'

namespace Work

variable {α β : Type} {t t' u : Tree} {a : α} {b : β}

/-- A value is given without a change of the files. -/
theorem does_pure (a : α) (t : Tree) : Does (pure a) t a t :=
  fun s hs => ⟨s, rfl, hs⟩

/-- An operation changes the files in one way. -/
theorem Does.unique {x : Work α} (h : Does x t a t') {a' : α} (h' : Does x t a' u) : t' = u := by
  obtain ⟨s, run, rfl⟩ := h { files := t } rfl
  obtain ⟨s', run', rfl⟩ := h' { files := t } rfl
  rw [run] at run'
  cases run'
  rfl

/-- Two computations change the files one after the other. -/
theorem Does.bind {x : Work α} {f : α → Work β} (hx : Does x t a t') (hf : Does (f a) t' b u) :
    Does (x >>= f) t b u := by
  intro s hs
  obtain ⟨s', run, hs'⟩ := hx s hs
  rw [bind_of_ok run]
  exact hf s' hs'

/-- A message is logged without a change of the files. -/
theorem does_log (severity : Severity) (origin text : String) (t : Tree) :
    Does (Work.log severity origin text) t ⟨⟩ t :=
  fun _ hs => ⟨_, rfl, hs⟩

/-- An operation on files does in a run what it does to the files. -/
theorem does_onFiles {x : Change α} (run : x t = .ok a t') : Does (Work.onFiles x) t a t' := by
  intro s hs
  refine ⟨{ s with files := t' }, ?_, rfl⟩
  rw [onFiles, hs, run]

end Work

namespace FileWriter

/-- Whether a template is left as it is, for it has the text if its line ends are unified. -/
def isKept (copy : Option String) (content : String) : Bool :=
  copy.any fun old => Text.unified old == content

/-- The text of a template that is written unless it has the text already. -/
def latest (copy : Option String) (content : String) : String :=
  if isKept copy content then copy.getD "" else content

/-- Whether a template has carriage returns, and differs from a text by its line ends only. -/
def Stale (copy : Option String) (content : String) : Prop :=
  ∃ old, copy = some old ∧ '\r' ∈ old.toList ∧ Text.unified old = content

/-- A template is kept if its text, with line ends unified, is the content. -/
theorem isKept_iff {copy : Option String} {content : String} :
    isKept copy content = true ↔ ∃ old, copy = some old ∧ Text.unified old = content := by
  simp [isKept, Option.any_eq_true]

/-- A template has the latest text unless it is stale. -/
theorem latest_eq_iff {copy : Option String} {content : String} :
    latest copy content = content ↔ ¬Stale copy content := by
  rw [latest]
  split
  · rename_i kept
    obtain ⟨old, rfl, same⟩ := isKept_iff.1 kept
    have stale : Stale (some old) content ↔ '\r' ∈ old.toList := by simp [Stale, same]
    rw [stale, Option.getD_some, ← Text.unified_eq_self_iff, same, eq_comm]
  · rename_i written
    refine iff_of_true rfl fun stale => written ?_
    obtain ⟨old, rfl, -, same⟩ := stale
    exact isKept_iff.2 ⟨old, rfl, same⟩

section Saving

variable {t : Tree} {p : Path} {f : Place} {copy : Option String}

/-- Whether a template is up to date depends on the text at its place. -/
theorem does_isUpToDate (room : t.Opens p f)
    (here : t.get? f = copy.map fun old => .file old.toUTF8) (content : String) :
    (isUpToDate p content).Does t (isKept copy content) t := by
  refine Work.does_onFiles ?_
  rw [bind_of_ok (Change.isFile_of_opens room), here]
  cases copy with
  | none => rfl
  | some old => exact bind_of_ok (Change.readText_of_opens room here)

/-- A file is written where there is room for it. -/
theorem exists_does_writeFile (room : t.Opens p f) (content : String) :
    ∃ t', (writeFile p content).Does t ⟨⟩ t' ∧ t.Filled t' f content.toUTF8 ∧
      t'.Holds p f content.toUTF8 := by
  obtain ⟨t', run, filled, holds⟩ := room.place content.toUTF8
  exact ⟨t', Work.does_onFiles run, filled, holds⟩

/-- A template is written unless it has the text already. -/
theorem exists_does_writeIfChanged (room : t.Opens p f)
    (here : t.get? f = copy.map fun old => .file old.toUTF8) (content : String) :
    ∃ t', (writeIfChanged p content).Does t ⟨⟩ t' ∧ t.Filled t' f (latest copy content).toUTF8 ∧
      t'.Holds p f (latest copy content).toUTF8 ∧
        (latest copy content = content → (writeFile p content).Does t ⟨⟩ t') := by
  have looks := does_isUpToDate room here content
  cases kept : isKept copy content with
  | true =>
    obtain ⟨old, rfl, same⟩ := isKept_iff.1 kept
    have text : latest (some old) content = old := by
      rw [latest, kept, if_pos rfl, Option.getD_some]
    obtain ⟨filled, holds⟩ := room.filled here
    rw [kept] at looks
    refine ⟨t, looks.bind (Work.does_log _ _ _ _), ?_, ?_, fun latest => ?_⟩
    · rwa [text]
    · rwa [text]
    · rw [text] at latest
      rw [← latest]
      exact Work.does_onFiles (room.place_same here)
  | false =>
    have text : latest copy content = content := by rw [latest, kept, if_neg (by simp)]
    obtain ⟨t', writes, filled, holds⟩ := exists_does_writeFile room content
    rw [kept] at looks
    rw [text]
    exact ⟨t', looks.bind (writes.bind (Work.does_log _ _ _ _)), filled, holds, fun _ => writes⟩

/-- Writes a user file unless there is one already. -/
def keepUser (w : FileWriter) (parts : List String) (content : String) : Work Path := do
  let path := w.userPath parts
  if ← Work.onFiles (Change.isPresent path) then
    Work.log .debug logName s!"preserving user file {path.toText}"
  else
    writeFile path content
    Work.log .info logName s!"created {path.toText}"
  return path

/-- Writes a user file unless there is one already, and the latest text for it even if the template
has it already. -/
def saveUserAnew (w : FileWriter) (parts : List String) (content : String) : Work Path := do
  writeFile (w.templatePath parts) content
  w.keepUser parts content

/-- A user file is written unless there is one already. -/
theorem exists_does_keepUser {w : FileWriter} {parts : List String} {kept : Option ByteArray}
    (room : t.Opens (w.userPath parts) f) (here : t.get? f = kept.map .file) (content : String) :
    ∃ t', (w.keepUser parts content).Does t (w.userPath parts) t' ∧
      t.Filled t' f (kept.getD content.toUTF8) ∧
      t'.Holds (w.userPath parts) f (kept.getD content.toUTF8) := by
  have looks : (Work.onFiles (Change.isPresent (w.userPath parts))).Does t kept.isSome t := by
    refine Work.does_onFiles ?_
    rw [Change.isPresent_of_opens room, here, Option.isSome_map]
  cases kept with
  | some bytes =>
    obtain ⟨filled, holds⟩ := room.filled here
    exact ⟨t, looks.bind ((Work.does_log _ _ _ _).bind (Work.does_pure _ _)), filled, holds⟩
  | none =>
    obtain ⟨t', writes, filled, holds⟩ := exists_does_writeFile room content
    exact ⟨t', looks.bind (writes.bind ((Work.does_log _ _ _ _).bind (Work.does_pure _ _))),
      filled, holds⟩

end Saving

end FileWriter

/-- Where there is room for a user file and its template, and neither lies above the other, the user
file has the text if it was not there, and its old bytes otherwise. The template has the latest
text, and the files are those that are left if the template is always written, exactly if the
template was not one that has carriage returns and differs from the text in its line ends only; such
a one keeps its old text. -/
theorem savedTemplate_latest (s : Store) (w : FileWriter) (parts : List String) (content : String)
    {f g : Place} {copy : Option String} {kept : Option ByteArray}
    (template : s.files.Opens (w.templatePath parts) f) (user : s.files.Opens (w.userPath parts) g)
    (apart : ¬f <+: g ∧ ¬g <+: f) (hcopy : s.files.get? f = copy.map fun old => .file old.toUTF8)
    (hkept : s.files.get? g = kept.map .file) :
    ∃ t u, w.saveUser parts content s = .ok (w.userPath parts) t ∧
      w.saveUserAnew parts content s = .ok (w.userPath parts) u ∧
      t.files.Holds (w.userPath parts) g (kept.getD content.toUTF8) ∧
      t.files.Holds (w.templatePath parts) f (FileWriter.latest copy content).toUTF8 ∧
      (t.files.Holds (w.templatePath parts) f content.toUTF8 ↔ ¬FileWriter.Stale copy content) ∧
      u.files.Holds (w.templatePath parts) f content.toUTF8 ∧
        (t.files = u.files ↔ ¬FileWriter.Stale copy content) := by
  obtain ⟨t₁, writes, filled, copied, written⟩ :=
    FileWriter.exists_does_writeIfChanged template hcopy content
  obtain ⟨u₁, always, filledAnew, copiedAnew⟩ := FileWriter.exists_does_writeFile template content
  obtain ⟨room, same⟩ := filled.opens apart.symm user
  obtain ⟨roomAnew, sameAnew⟩ := filledAnew.opens apart.symm user
  obtain ⟨t₂, keeps, kept₂, held⟩ := FileWriter.exists_does_keepUser room (same.trans hkept) content
  obtain ⟨u₂, keepsAnew, keptAnew, -⟩ :=
    FileWriter.exists_does_keepUser roomAnew (sameAnew.trans hkept) content
  have saves : (w.saveUser parts content).Does s.files (w.userPath parts) t₂ :=
    Work.Does.bind writes keeps
  have savesAnew : (w.saveUserAnew parts content).Does s.files (w.userPath parts) u₂ :=
    Work.Does.bind always keepsAnew
  obtain ⟨t, run, rfl⟩ := saves s rfl
  obtain ⟨u, runAnew, rfl⟩ := savesAnew s rfl
  have differ : f ≠ g := by
    rintro rfl
    exact apart.1 (List.prefix_refl f)
  have copied := kept₂.holds differ copied
  have copiedAnew := keptAnew.holds differ copiedAnew
  have latest : t.files.Holds (w.templatePath parts) f content.toUTF8 ↔
      FileWriter.latest copy content = content := by
    constructor
    · intro holds
      have bytes := copied.entry.symm.trans holds.entry
      exact Text.toUTF8_inj.1 (Files.Entry.file.inj (Option.some.inj bytes))
    · intro text
      rwa [text] at copied
  refine ⟨t, u, run, runAnew, held, copied, latest.trans FileWriter.latest_eq_iff, copiedAnew, ?_⟩
  rw [← FileWriter.latest_eq_iff]
  constructor
  · intro files
    rw [← latest, files]
    exact copiedAnew
  · intro text
    obtain rfl : t₁ = u₁ := (written text).unique always
    exact keeps.unique keepsAnew

/-- A template of a text with another line end, in a directory that has no user file. -/
def staleTemplate : Tree where
  entries := [(["w"], .directory), (["w", ".taskgen"], .directory),
    (["w", ".taskgen", "templates"], .directory),
    (["w", ".taskgen", "templates", "x"], .file "a\r\n".toUTF8)]

/-- The template keeps its carriage return. -/
theorem savedTemplate_latest_stale :
    let w : FileWriter := { baseDir := ⟨"/", ["w"]⟩ }
    let s : Store := { files := staleTemplate }
    FileWriter.Stale (some "a\r\n") "a\n" ∧
      ∃ t u, w.saveUser ["x"] "a\n" s = .ok ⟨"/", ["w", "x"]⟩ t ∧
      w.saveUserAnew ["x"] "a\n" s = .ok ⟨"/", ["w", "x"]⟩ u ∧
      t.files.Holds ⟨"/", ["w", "x"]⟩ ["w", "x"] "a\n".toUTF8 ∧
      t.files.Holds ⟨"/", ["w", ".taskgen", "templates", "x"]⟩ ["w", ".taskgen", "templates",
        "x"] "a\r\n".toUTF8 ∧
      t.files ≠ u.files := by
  intro w s
  have stale : FileWriter.Stale (some "a\r\n") "a\n" := ⟨_, rfl, by decide, by decide⟩
  have paths : w.templatePath ["x"] = ⟨"/", ["w", ".taskgen", "templates", "x"]⟩ ∧
      w.userPath ["x"] = ⟨"/", ["w", "x"]⟩ := by
    decide +kernel
  have there : staleTemplate.Walks true Tree.mostLinks [] ["w", ".taskgen", "templates", "x"]
      ["w", ".taskgen", "templates", "x"] :=
    .down (by decide) (by decide) rfl <| .down (by decide) (by decide) rfl <|
      .down (by decide) (by decide) rfl <| .last _ (by decide) (by decide) (by decide) fun _ => rfl
  have vacant : staleTemplate.Walks true Tree.mostLinks [] ["w", "x"] ["w", "x"] :=
    .down (by decide) (by decide) rfl <| .last _ (by decide) (by decide) (by decide) fun _ => rfl
  have template : staleTemplate.Opens ⟨"/", ["w", ".taskgen", "templates", "x"]⟩
      ["w", ".taskgen", "templates", "x"] :=
    .found (by decide) there.walk (by decide)
  have user : staleTemplate.Opens ⟨"/", ["w", "x"]⟩ ["w", "x"] :=
    .found (by decide) vacant.walk (by decide)
  have text : FileWriter.latest (some "a\r\n") "a\n" = "a\r\n" := by decide
  rw [← paths.1] at template ⊢
  rw [← paths.2] at user ⊢
  have copy : staleTemplate.get? ["w", ".taskgen", "templates", "x"] =
      (some "a\r\n").map fun old => .file old.toUTF8 := rfl
  have kept : staleTemplate.get? ["w", "x"] = (none : Option ByteArray).map .file := rfl
  obtain ⟨t, u, run, anew, held, copied, -, -, same⟩ :=
    savedTemplate_latest s w ["x"] "a\n" template user (by decide) copy kept
  rw [text] at copied
  exact ⟨stale, t, u, run, anew, held, copied, fun files => same.1 files stale⟩

end Componentry
