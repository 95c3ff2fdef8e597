import ClassScribe.CommandLine.Effect
import ClassScribe.CommandLine.Formats
import ClassScribe.Proofs.Emission.Enumeration
import ClassScribe.Proofs.Files.System
import ClassScribe.Proofs.Outcome
import ClassScribe.Proofs.Schema.Written

/-! # What a rendering command writes

A run that fails changes no file. One that succeeds changes no file either, or just the file that it has been
told to write, and the text there is the one that the emitter gives (`run_render_files`). -/

namespace ClassScribe.CommandLine

variable {readers : Readers} {c : Configuration} {s after : FileSystem} {r : RenderRequest} {p : Path} {text : String}
  {e : Failure} {i : Invocation} {environment : List (String × String)}

/-! ### The text -/

theorem emits_iff : Emits readers c s r text ↔ renderSource readers c s r.schema r.template = .ok text := by
  unfold renderSource
  constructor
  · intro h
    cases h with
    | @ofKind library loaded _ hlibrary hloaded htemplate htext =>
        obtain ⟨chain, hchain, htext⟩ := bind_eq_ok.mp htext
        rw [htemplate]
        exact bind_eq_ok.mpr ⟨library, hlibrary, bind_eq_ok.mpr ⟨loaded, mapError_eq_ok.mpr hloaded,
          bind_eq_ok.mpr ⟨chain, mapError_eq_ok.mpr hchain, mapError_eq_ok.mpr htext⟩⟩⟩
    | @ofLeaf library loaded leaf chain _ hlibrary hloaded htemplate hchain htext =>
        rw [htemplate]
        exact bind_eq_ok.mpr ⟨library, hlibrary, bind_eq_ok.mpr ⟨loaded, mapError_eq_ok.mpr hloaded,
          bind_eq_ok.mpr ⟨chain, mapError_eq_ok.mpr hchain, mapError_eq_ok.mpr htext⟩⟩⟩
  · intro h
    obtain ⟨library, hlibrary, h⟩ := bind_eq_ok.mp h
    obtain ⟨loaded, hloaded, h⟩ := bind_eq_ok.mp h
    obtain ⟨chain, hchain, htext⟩ := bind_eq_ok.mp h
    rw [mapError_eq_ok] at hloaded hchain htext
    cases htemplate : r.template with
    | none =>
        rw [htemplate] at hchain
        exact .ofKind hlibrary hloaded htemplate (bind_eq_ok.mpr ⟨chain, hchain, htext⟩)
    | some leaf =>
        rw [htemplate] at hchain
        exact .ofLeaf hlibrary hloaded htemplate hchain htext

/-! ### Files -/

theorem makeParent_sameFiles (h : makeParent s p = .ok after) : s.SameFiles after := by
  unfold makeParent at h
  split at h
  · cases h
    exact .refl s
  · split at h
    · cases h
      exact .refl s
    · split at h
      · next made hmade =>
          cases h
          exact FileSystem.makeDirectories?_sameFiles hmade
      · cases h

theorem directory_of_makeParent (h : makeParent s p = .error e) : ∃ parent, e = .directory parent := by
  unfold makeParent at h
  split at h
  · cases h
  · split at h
    · cases h
    · split at h
      · cases h
      · next parent _ _ _ _ =>
          cases h
          exact ⟨parent, rfl⟩

theorem writeSource_of_stays (hstays : Stays c s p) (text : String) :
    writeSource s p text c.overwrite = (.ok .skipped, s) := by
  obtain ⟨hskip, hcontains⟩ := hstays
  unfold writeSource
  rw [hskip, hcontains]
  rfl

/-- How writing a source ends where no file has to stay. -/
inductive WriteEnds (s : FileSystem) (p : Path) (text : String) :
    Except Failure WriteResult × FileSystem → Prop
  | written {result : WriteResult} {after : FileSystem} : s.Written p text after →
      WriteEnds s p text (.ok result, after)
  | refused {e : Failure} {after : FileSystem} : ((∃ parent, e = .directory parent) ∨ e = .file p) →
      s.SameFiles after → WriteEnds s p text (.error e, after)

theorem writeSource_ends (hstays : ¬Stays c s p) (text : String) :
    WriteEnds s p text (writeSource s p text c.overwrite) := by
  unfold writeSource
  rw [if_neg (by simpa [Stays, and_comm] using hstays)]
  split
  · next e hparent => exact .refused (.inl (directory_of_makeParent hparent)) (.refl s)
  · next withParent hparent =>
      have hsame := makeParent_sameFiles hparent
      split
      · exact .refused (.inr rfl) hsame
      · next after hwrite => exact .written (hsame.written (FileSystem.write?_written hwrite))

/-! ### Runs -/

theorem run_of_load_error {cause : ConfigurationError}
    (hc : Configuration.load readers.settings s i.config environment = .error cause) :
    run readers i environment s = ⟨.error (.configuration cause), s⟩ := by
  unfold run
  rw [hc]

theorem run_of_load (hi : i.command = .render r) (hc : Configuration.load readers.settings s i.config environment = .ok c) :
    run readers i environment s = runRender readers c s r := by
  unfold run
  rw [hc]
  dsimp only
  rw [hi]

/-- The source is rendered first, and nothing has been done about files by then. -/
theorem runRender_eq (readers : Readers) (c : Configuration) (s : FileSystem) (r : RenderRequest) :
    runRender readers c s r =
      deliver (r.settle c) s r.output (renderSource readers (r.settle c) s r.schema r.template) := by
  -- Rendering is a variable here. Else comparing both sides means to parse the shipped templates.
  obtain ⟨run, hrun⟩ : ∃ run, run = runRender readers := ⟨_, rfl⟩
  obtain ⟨source, hsource⟩ : ∃ source, source = renderSource readers := ⟨_, rfl⟩
  rw [← hrun, ← hsource]
  unfold runRender at hrun
  rw [← hsource] at hrun
  rw [hrun]
  unfold RenderRequest.settle
  dsimp only
  cases source _ s r.schema r.template with
  | error e => rfl
  | ok text => cases r.output <;> rfl

/-- A source that is not written leaves all files as they are, also where a directory has been made. -/
theorem sameFiles_of_deliver {output : Option Path} {source : Except Failure String}
    (h : (deliver c s output source).result = .error e) :
    s.SameFiles (deliver c s output source).files := by
  cases source with
  | error _ => exact .refl s
  | ok text =>
      cases output with
      | none => exact .refl s
      | some output =>
          unfold deliver at h ⊢
          dsimp only at h ⊢
          by_cases hstays : Stays c s (c.outputDirectory.join output)
          · rw [writeSource_of_stays hstays]
            exact .refl s
          · have hends := writeSource_ends hstays text
            generalize writeSource s (c.outputDirectory.join output) text c.overwrite = w at hends h ⊢
            cases hends with
            | written _ => cases h
            | refused _ hsame => exact hsame

theorem effect_of_error (h : renderSource readers c s r.schema r.template = .error e) :
    Effect readers c s r (deliver c s r.output (.error e)) := by
  have hnone (text : String) : ¬Emits readers c s r text := by
    intro htext
    rw [emits_iff, h] at htext
    cases htext
  refine ⟨fun _ => ⟨rfl, fun text => ?_⟩, fun _ _ _ => ⟨rfl, ?_⟩, fun _ _ _ => ⟨?_, ?_⟩⟩
  · constructor
    · intro h
      cases h
    · intro htext
      exact absurd htext (hnone text)
  · constructor
    · rintro ⟨_, h⟩
      cases h
    · rintro ⟨text, htext⟩
      exact absurd htext (hnone text)
  · intro _ h
    cases h
  · intro _ _
    exact .inl hnone

theorem effect_of_ok (h : renderSource readers c s r.schema r.template = .ok text) :
    Effect readers c s r (deliver c s r.output (.ok text)) := by
  have htext : Emits readers c s r text := emits_iff.mpr h
  refine ⟨fun ho => ?_, fun output ho hstays => ?_, fun output ho hstays => ?_⟩
  · rw [ho]
    refine ⟨rfl, fun other => ?_⟩
    rw [emits_iff, h]
    rfl
  · rw [ho, deliver]
    dsimp only
    rw [writeSource_of_stays hstays]
    exact ⟨rfl, fun _ => ⟨text, htext⟩, fun _ => ⟨_, rfl⟩⟩
  · have hends := writeSource_ends hstays text
    rw [ho, deliver]
    dsimp only
    generalize writeSource s (c.outputDirectory.join output) text c.overwrite = w at hends ⊢
    cases hends with
    | @written result after hwritten =>
        refine ⟨fun _ _ => ⟨text, htext, hwritten⟩, ?_⟩
        intro _ herror
        cases herror
    | @refused e after hrefused _ =>
        refine ⟨?_, ?_⟩
        · intro _ hok
          cases hok
        · intro _ herror
          cases herror
          exact .inr hrefused

theorem effect_deliver (readers : Readers) (c : Configuration) (s : FileSystem) (r : RenderRequest) :
    Effect readers c s r (deliver c s r.output (renderSource readers c s r.schema r.template)) := by
  cases h : renderSource readers c s r.schema r.template with
  | error e => exact effect_of_error h
  | ok text => exact effect_of_ok h

/-- A rendering command never damages files, whatever its readers take from documents. If it fails, for any
reason, there are the same files with the same contents. If it succeeds, they have not been touched either,
unless it has been told to write a file that does not have to stay: this file then has the text that the
emitter gives, and all others are as before. -/
theorem run_render_files (readers : Readers) (i : Invocation) (environment : List (String × String))
    (s : FileSystem) (r : RenderRequest) (hi : i.command = .render r) :
    (∀ e, (run readers i environment s).result = .error e → s.SameFiles (run readers i environment s).files) ∧
      ∀ c, Configuration.load readers.settings s i.config environment = .ok c →
        Effect readers (r.settle c) s r (run readers i environment s) := by
  cases hc : Configuration.load readers.settings s i.config environment with
  | error cause =>
      rw [run_of_load_error hc]
      refine ⟨fun _ _ => .refl s, ?_⟩
      intro c h
      cases h
  | ok c =>
      rw [run_of_load hi hc, runRender_eq]
      refine ⟨fun _ => sameFiles_of_deliver, ?_⟩
      intro c' h
      cases h
      exact effect_deliver readers (r.settle c) s r

/-! ### A run that writes a file -/

/-- An enumeration of one number. -/
def lamp : ClassSpec := ⟨"Lamp", .enum, "", "Enum", [], [⟨"ON", .number (.int 1), []⟩], [], [], none⟩

/-- A working directory with the schema file of the enumeration and another file. -/
def desk : FileSystem :=
  ⟨.directory [("desk", .directory [("lamp.json", .file (some (Json.codec.write lamp.toValue))),
    ("notes.txt", .file (some "keep"))])], ["desk"]⟩

/-- The request to write the enumeration to a file in a directory that is to be made. -/
def lampRequest : RenderRequest := ⟨⟨"lamp.json"⟩, none, none, some ⟨"js/Lamp.js"⟩, none⟩

theorem load_lamp : ClassSpec.load Readers.standard.schemas desk ⟨"lamp.json"⟩ = .ok lamp := by
  have hread : (Readers.standard.schemas .json).spec? (Json.codec.write lamp.toValue) = some lamp := by
    rw [← lamp.written_sorted]
    exact ClassSpec.spec?_write Json.rereadsBy_codec .sorted (by simp [lamp])
  have hfile : desk.read? ⟨"lamp.json"⟩ = some (Json.codec.write lamp.toValue) := rfl
  have hformat : SchemaFormat.ofPath? ⟨"lamp.json"⟩ = some .json := rfl
  unfold ClassSpec.load
  rw [hformat]
  dsimp only
  rw [hfile]
  dsimp only [ClassSpec.parse]
  rw [hread]

theorem emits_lamp :
    Emits .standard (lampRequest.settle .standard) desk lampRequest (ClassText.enumeration lamp) := by
  obtain ⟨l, hl, ht⟩ := Shipped.library_standard
  have hlibrary : loadTemplates (lampRequest.settle .standard) desk = .ok l := by
    have hspacing : (lampRequest.settle .standard).spacing = .standard := rfl
    unfold loadTemplates
    rw [hspacing, hl]
    rfl
  have hchain : Emitter.chainFor ⟨l, .standard⟩ lamp.kind = .ok ⟨"base_template", ["enum_template"]⟩ :=
    Shipped.chainFor_enum ht
  obtain ⟨-, htext⟩ := Shipped.emit_eq (fun _ => ClassText.enumeration lamp) hchain (Shipped.resolve_enum ht)
    fun _ _ => Shipped.render_enumeration rfl _
  exact .ofKind hlibrary load_lamp rfl (htext [] rfl)

/-- The file is made in its directory, with the source of the enumeration. -/
theorem run_render_files_lamp :
    (Invocation.mk none (.render lampRequest)).command = .render lampRequest ∧
      (run .standard ⟨none, .render lampRequest⟩ [] desk).result = .ok "created ./js/Lamp.js\n" ∧
      (run .standard ⟨none, .render lampRequest⟩ [] desk).files.read? ⟨"./js/Lamp.js"⟩ =
        some (ClassText.enumeration lamp) ∧
      desk.Written ⟨"./js/Lamp.js"⟩ (ClassText.enumeration lamp)
        (run .standard ⟨none, .render lampRequest⟩ [] desk).files := by
  have hload : Configuration.load Readers.standard.settings desk none [] = .ok .standard := by rfl
  have hpath : (⟨"./js/Lamp.js"⟩ : Path) =
      (lampRequest.settle .standard).outputDirectory.join ⟨"js/Lamp.js"⟩ := rfl
  have hresult : (run .standard ⟨none, .render lampRequest⟩ [] desk).result = .ok "created ./js/Lamp.js\n" := by
    rw [run_of_load rfl hload, runRender_eq, emits_iff.mp emits_lamp]
    rfl
  obtain ⟨-, heffect⟩ := run_render_files .standard ⟨none, .render lampRequest⟩ [] desk lampRequest rfl
  have hstays : ¬Stays (lampRequest.settle .standard) desk ⟨"./js/Lamp.js"⟩ := by
    rintro ⟨hskip, -⟩
    cases hskip
  rw [hpath] at hstays
  obtain ⟨text, htext, hwritten⟩ := ((heffect _ hload).written _ rfl hstays).1 _ hresult
  obtain rfl : text = ClassText.enumeration lamp :=
    Except.ok.inj ((emits_iff.mp htext).symm.trans (emits_iff.mp emits_lamp))
  rw [← hpath] at hwritten
  exact ⟨rfl, hresult, hwritten.read?, hwritten⟩

end ClassScribe.CommandLine
