/-
What becomes of loading conventions from a path, whatever is there. The standard conventions stand in for a
file only where nothing is at the path: a directory, bytes that are no text, and a text that is refused all
fail as they do without the fallback. The conventions of a file are reported, and nothing else is.
-/
import BuilderSpec.Conventions.File
import BuilderSpec.Proofs.Conventions.Document

namespace BuilderSpec.Conventions

/-! ## Reading -/

/-- Bytes are read as the text that they encode. -/
theorem fromUTF8?_eq_some_iff {content : ByteArray} {text : String} :
    String.fromUTF8? content = some text ↔ text.toUTF8 = content := by
  unfold String.fromUTF8?
  constructor
  · intro h
    split at h
    · cases h
      rfl
    · cases h
  · rintro rfl
    exact dif_pos text.isValidUTF8

theorem fromUTF8?_toUTF8 (text : String) : String.fromUTF8? text.toUTF8 = some text :=
  fromUTF8?_eq_some_iff.2 rfl

theorem fromUTF8?_eq_none_iff {content : ByteArray} :
    String.fromUTF8? content = none ↔ ∀ text : String, text.toUTF8 ≠ content := by
  rw [Option.eq_none_iff_forall_ne_some]
  exact forall_congr' fun text => not_congr fromUTF8?_eq_some_iff

namespace PathState

theorem read_file_toUTF8 (text : String) : (file text.toUTF8).read = .ok text := by
  simp only [read, fromUTF8?_toUTF8]

theorem read_file_of_not_encoded {content : ByteArray} (h : ∀ text : String, text.toUTF8 ≠ content) :
    (file content).read = .error .notUtf8 := by
  simp only [read, fromUTF8?_eq_none_iff.2 h]

/-- A path gives a text if it is a file that holds the bytes of one. -/
theorem read_eq_ok_iff {path : PathState} {text : String} :
    path.read = .ok text ↔ path = .file text.toUTF8 := by
  constructor
  · intro h
    cases path with
    | missing => cases h
    | directory => cases h
    | file content =>
      simp only [read] at h
      split at h
      · rename_i found hfound
        cases h
        rw [fromUTF8?_eq_some_iff.1 hfound]
      · cases h
  · rintro rfl
    exact read_file_toUTF8 text

end PathState

/-! ## Loading -/

/-- What becomes of loading what is at a path. -/
inductive Loads : PathState → Reported (Except LoadError Conventions) → Prop where
  | missing : Loads .missing (.silent (.error (.unreadable .notFound)))
  | directory : Loads .directory (.silent (.error (.unreadable .isDirectory)))
  | undecodable {content : ByteArray} (h : ∀ text : String, text.toUTF8 ≠ content) :
    Loads (.file content) (.silent (.error (.unreadable .notUtf8)))
  | refused {text : String} {e : DocumentError} (h : ofToml text = .error e) :
    Loads (.file text.toUTF8) (.silent (.error (.document e)))
  | accepted {text : String} {c : Conventions} (h : ofToml text = .ok c) :
    Loads (.file text.toUTF8) ⟨.ok c, [.conventionsLoaded c]⟩

theorem load_of_unread {path : PathState} {failure : ReadFailure} (h : path.read = .error failure) :
    load path = .silent (.error (.unreadable failure)) := by
  simp only [load, h]

theorem load_of_refused {text : String} {e : DocumentError} (h : ofToml text = .error e) :
    load (.file text.toUTF8) = .silent (.error (.document e)) := by
  simp only [load, PathState.read_file_toUTF8, h]

theorem load_of_accepted {text : String} {c : Conventions} (h : ofToml text = .ok c) :
    load (.file text.toUTF8) = ⟨.ok c, [.conventionsLoaded c]⟩ := by
  simp only [load, PathState.read_file_toUTF8, h]

theorem loads_load (path : PathState) : Loads path (load path) := by
  cases path with
  | missing => exact .missing
  | directory => exact .directory
  | file content =>
    by_cases h : ∃ text : String, text.toUTF8 = content
    · obtain ⟨text, rfl⟩ := h
      cases hresult : ofToml text with
      | error e =>
        rw [load_of_refused hresult]
        exact .refused hresult
      | ok c =>
        rw [load_of_accepted hresult]
        exact .accepted hresult
    · have hbytes := not_exists.1 h
      rw [load_of_unread (PathState.read_file_of_not_encoded hbytes)]
      exact .undecodable hbytes

/-- Loading has one outcome for each path: the one that is reached. -/
theorem load_eq_iff {path : PathState} {r : Reported (Except LoadError Conventions)} :
    load path = r ↔ Loads path r := by
  constructor
  · rintro rfl
    exact loads_load path
  · intro h
    cases h with
    | missing => rfl
    | directory => rfl
    | undecodable h => exact load_of_unread (PathState.read_file_of_not_encoded h)
    | refused h => exact load_of_refused h
    | accepted h => exact load_of_accepted h

theorem load_file_toUTF8 (text : String) :
    (load (.file text.toUTF8)).result = (ofToml text).mapError .document := by
  cases hresult : ofToml text with
  | error e => rw [load_of_refused hresult]; rfl
  | ok c => rw [load_of_accepted hresult]; rfl

/-- Loading fails to read just where there is no text at the path. -/
theorem unreadable_iff {path : PathState} :
    (∃ failure, (load path).result = .error (.unreadable failure)) ↔
      ∀ text : String, path ≠ .file text.toUTF8 := by
  constructor
  · rintro ⟨failure, hfailure⟩ text rfl
    rw [load_file_toUTF8] at hfailure
    cases hresult : ofToml text <;> rw [hresult] at hfailure <;> cases hfailure
  · intro hpath
    cases hread : path.read with
    | ok text => exact absurd (PathState.read_eq_ok_iff.1 hread) (hpath text)
    | error failure =>
      rw [load_of_unread hread]
      exact ⟨failure, rfl⟩

/-- Loading succeeds with what the text of a file sets. -/
theorem load_eq_ok_iff {path : PathState} {c : Conventions} :
    (load path).result = .ok c ↔ ∃ text : String, path = .file text.toUTF8 ∧ ofToml text = .ok c := by
  constructor
  · intro h
    have hloads := loads_load path
    generalize load path = r at h hloads
    cases hloads with
    | accepted hresult =>
      cases h
      exact ⟨_, rfl, hresult⟩
    | _ => cases h
  · rintro ⟨text, rfl, h⟩
    rw [load_of_accepted h]

/-! ## Reports -/

/-- What there is to report of a result: the conventions, if there are any. -/
def reportOf : Except LoadError Conventions → List Event
  | .ok c => [.conventionsLoaded c]
  | .error _ => []

theorem level_of_mem_reportOf {result : Except LoadError Conventions} {e : Event}
    (h : e ∈ reportOf result) : e.level = "DEBUG" := by
  cases result with
  | ok c =>
    cases List.mem_singleton.1 h
    rfl
  | error _ => cases h

theorem Loads.events_eq {path : PathState} {r : Reported (Except LoadError Conventions)}
    (h : Loads path r) : r.events = reportOf r.result := by
  cases h <;> rfl

/-- What is recorded of loading the file at a path: where conventions are found, that they were loaded, with the
path and what they are, and else nothing. -/
theorem recordAt_load (name : String) (path : PathState) :
    (load path).events.map (recordAt name) = (load path).result.toOption.toList.map fun c =>
      ("DEBUG", "loaded generation conventions", [("path", name), ("conventions", c.inspect)]) := by
  rw [(loads_load path).events_eq]
  cases (load path).result <;> rfl

/-! ## Falling back -/

theorem loadOrStandard_of_ne_missing {path : PathState} (h : path ≠ .missing) :
    loadOrStandard path = load path := by
  cases path with
  | missing => exact absurd rfl h
  | directory => rfl
  | file content => rfl

theorem loadOrStandard_eq_standard_iff {path : PathState} :
    (loadOrStandard path).result = .ok standard ↔
      path = .missing ∨ (load path).result = .ok standard := by
  by_cases h : path = .missing
  · subst h
    exact iff_of_true rfl (.inl rfl)
  · rw [loadOrStandard_of_ne_missing h, or_iff_right h]

/-- The fallback reports no more than the failure that it stands in for. -/
theorem events_loadOrStandard (path : PathState) : (loadOrStandard path).events = (load path).events := by
  by_cases h : path = .missing
  · subst h
    rfl
  · rw [loadOrStandard_of_ne_missing h]

/-- Whatever is at the path, the conventions that come of it can be used. -/
theorem usable_of_loadOrStandard {path : PathState} {c : Conventions}
    (h : (loadOrStandard path).result = .ok c) : c.Usable := by
  rw [← validate_eq_ok_iff_usable]
  by_cases hpath : path = .missing
  · subst hpath
    cases h
    decide
  · rw [loadOrStandard_of_ne_missing hpath] at h
    obtain ⟨text, -, htext⟩ := load_eq_ok_iff.1 h
    cases hread : Toml.read? text with
    | none => cases (ofToml_of_malformed hread).symm.trans htext
    | some entries =>
      rw [ofToml_of_read? hread] at htext
      exact validate_of_ofTable (Toml.keyed_of_read? hread) htext

/-- The standard conventions stand in for a file only where nothing is at the path. Loading fails to read
where there is no text at the path, and else has the result that the text has. With the fallback, the result
is the standard conventions just where nothing is at the path or they are what loading gives; everywhere else
it is what loading gives. The conventions of a file are reported as they are loaded; a failure reports
nothing, and neither does the fallback. -/
theorem loadOrStandard_decides (path : PathState) :
    (∀ r, load path = r ↔ Loads path r) ∧
    ((∃ failure, (load path).result = .error (.unreadable failure)) ↔
      ∀ text : String, path ≠ .file text.toUTF8) ∧
    (∀ text : String, path = .file text.toUTF8 →
      (load path).result = (ofToml text).mapError .document) ∧
    ((loadOrStandard path).result = .ok standard ↔
      path = .missing ∨ (load path).result = .ok standard) ∧
    (path ≠ .missing → (loadOrStandard path).result = (load path).result) ∧
    (∀ c, (load path).result = .ok c ↔
      ∃ text : String, path = .file text.toUTF8 ∧ ofToml text = .ok c) ∧
    (load path).events = reportOf (load path).result ∧
    (loadOrStandard path).events = reportOf (load path).result ∧
    ∀ e ∈ reportOf (load path).result, e.level = "DEBUG" := by
  have hevents := (loads_load path).events_eq
  refine ⟨fun _ => load_eq_iff, unreadable_iff, ?_, loadOrStandard_eq_standard_iff, fun h => ?_,
    fun _ => load_eq_ok_iff, hevents, (events_loadOrStandard path).trans hevents,
    fun _ h => level_of_mem_reportOf h⟩
  · rintro text rfl
    exact load_file_toUTF8 text
  · rw [loadOrStandard_of_ne_missing h]

/-- A file that says nothing new gives the standard conventions, and they are reported. One that says something
wrong, and one that holds a byte that no text has, do not give them. -/
theorem loadOrStandard_brokenFiles :
    (loadOrStandard (.file "builder_suffix = \"_Builder\"".toUTF8)).result = .ok standard ∧
    (loadOrStandard (.file "builder_suffix = \"_Builder\"".toUTF8)).events =
      [.conventionsLoaded standard] ∧
    (loadOrStandard (.file "value_class = 7".toUTF8)).result =
      .error (.document (.misfit (.notText (.nested .valueClass) (.integer 7)))) ∧
    (loadOrStandard (.file ⟨#[0xFF]⟩)).result = .error (.unreadable .notUtf8) := by
  have hread : Toml.read? "builder_suffix = \"_Builder\"" = some [("builder_suffix", .string "_Builder")] := by
    cbv
  have hreadWrong : Toml.read? "value_class = 7" = some [("value_class", .integer 7)] := by cbv
  obtain ⟨-, -, htext, hstandard, -, -, -, hevents, -⟩ :=
    loadOrStandard_decides (.file "builder_suffix = \"_Builder\"".toUTF8)
  obtain ⟨-, -, hwrong, -, hfallback, -⟩ := loadOrStandard_decides (.file "value_class = 7".toUTF8)
  obtain ⟨hbytes, -, -, -, hfallback', -⟩ := loadOrStandard_decides (.file ⟨#[0xFF]⟩)
  have hfile : ∀ content : ByteArray, PathState.file content ≠ .missing := by
    rintro content ⟨⟩
  have hloaded : (load (.file "builder_suffix = \"_Builder\"".toUTF8)).result = .ok standard := by
    rw [htext _ rfl, ofToml_of_read? hread]
    rfl
  refine ⟨hstandard.2 (.inr hloaded), ?_, ?_, ?_⟩
  · rw [hevents, hloaded]
    rfl
  · rw [hfallback (hfile _), hwrong _ rfl, ofToml_of_read? hreadWrong]
    rfl
  · rw [hfallback' (hfile _), (hbytes _).2 (.undecodable (fromUTF8?_eq_none_iff.1 (by decide)))]
    rfl

end BuilderSpec.Conventions
