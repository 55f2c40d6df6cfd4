import HubRelay.Proofs.CommandLine.FileSystems
import HubRelay.Proofs.Discovery.Contracts
import HubRelay.Proofs.Hub.RoundTrip
import HubRelay.Proofs.Snapshot.RoundTrip

/-!
# The hubs that are printed are the hubs that are rendered

The program prints hubs as JSON or renders their document. Both ways begin alike: they find the
settings and the snapshot in files that they only read (`OnlyReads`), and discover the hubs. So when
both succeed in the same state of a file system that reading does not change, they have the same
settings and the same hubs (`Invocation.exists_of_run_inspect`, `Invocation.exists_of_run_generate`).

What is printed is read back as these hubs (`Hub.read_listToJson`), because they were discovered and
so fit into the levels that the reader may enter. Hence rendering what is printed gives the document
that is printed, or written to a file, in the other way.
-/

set_option autoImplicit false

namespace HubRelay

/-! ### Lists of hubs -/

/-- Hubs that fit are read back from their list, on one line or indented from any depth, and blanks may
follow. -/
theorem Hub.read_listToJson {hubs : List Hub} (h : ∀ hub ∈ hubs, hub.Fits (Json.maxLevels - 1)) :
    Json.read (listOfJson Json.maxLevels) (listToJson hubs).compact = .ok hubs ∧
      (∀ depth, Json.read (listOfJson Json.maxLevels) ((listToJson hubs).pretty depth) = .ok hubs) ∧
      Json.read (listOfJson Json.maxLevels) (Invocation.inspection hubs) = .ok hubs := by
  have hdecodes := Hub.decodes_list (by decide) h
  have hcompact := hdecodes.read_eq .oneLine
  have hpretty := fun depth ↦ hdecodes.read_eq (.indented depth)
  have hline : ['\n'].all Json.isBlank = true := by decide
  have hprinted := hdecodes.read_append_eq (.indented 0) hline
  simp only [Json.Layout.text, String.ofList_append, String.ofList_toList] at hcompact hpretty hprinted
  exact ⟨hcompact, hpretty, hprinted⟩

/-- The hubs of a list that is read fit into the levels that are left for them. -/
theorem Hub.fits_of_read {text : String} {hubs : List Hub}
    (h : Json.read (listOfJson Json.maxLevels) text = .ok hubs) :
    ∀ hub ∈ hubs, hub.Fits (Json.maxLevels - 1) := fun hub hhub ↦
  Hub.fits_of_produces ((Json.produces_of_read h).of_list hub hhub)

namespace Invocation

/-! ### The common beginning -/

section Runs

variable {σ : Type} {fs : FileSystem (StateM σ)}

theorem onlyReads_loadConfig (h : fs.UnchangedByReading) (path : String) :
    OnlyReads (loadConfig fs path) := by
  refine (h.onlyReads_read path).bind fun content ↦ ?_
  split
  · exact onlyReads_throw _
  · split
    · exact onlyReads_pure _
    · exact onlyReads_throw _

theorem onlyReads_settings (h : fs.UnchangedByReading) (i : Invocation) :
    OnlyReads (i.settings fs) := by
  unfold settings
  split
  · exact (onlyReads_loadConfig h _).bind fun _ ↦ onlyReads_pure _
  · refine (h.onlyReads_isFile defaultConfig).bind fun found ↦ ?_
    split
    · exact (onlyReads_loadConfig h _).bind fun _ ↦ onlyReads_pure _
    · exact (onlyReads_pure _).bind fun _ ↦ onlyReads_pure _

theorem onlyReads_loadModel (h : fs.UnchangedByReading) (i : Invocation) :
    OnlyReads (i.loadModel fs) := by
  refine (h.onlyReads_read i.snapshot).bind fun content ↦ ?_
  split
  · exact onlyReads_throw _
  · split
    · exact onlyReads_pure _
    · exact onlyReads_throw _

variable {i : Invocation} {s after : σ} {text : String}

/-- A snapshot that is read from its file and accepted is the model of the run. -/
theorem perform_loadModel {content : String} {snapshot : Snapshot} {model : Model}
    (hfile : (fs.read i.snapshot).run s = (some content, s))
    (hread : Json.read (Snapshot.ofJson Json.maxLevels) content = .ok snapshot)
    (hmodel : Model.ofSnapshot snapshot = .ok model) :
    perform s (i.loadModel fs) = (.ok model, s) := by
  have haccepted : modelOf? content = some model := by
    unfold modelOf?
    rw [hread]
    dsimp only
    rw [hmodel]
    rfl
  have hcontent : perform s (liftM (fs.read i.snapshot)) = (.ok (some content), s) := by
    rw [perform_liftM, hfile]
  refine perform_bind_eq_ok_iff.mpr ⟨some content, s, hcontent, ?_⟩
  dsimp only
  rw [haccepted]
  rfl

/-- A run that succeeds has found the settings and the snapshot, and leaves the state to what comes
next. -/
theorem exists_of_perform_run (hlaw : fs.UnchangedByReading)
    {finish : Settings → Model → ExceptT CommandError (StateM σ) String}
    (h : perform s (do
      let settings ← i.settings fs
      let model ← i.loadModel fs
      finish settings model) = (.ok text, after)) :
    ∃ settings model, perform s (i.settings fs) = (.ok settings, s) ∧
      perform s (i.loadModel fs) = (.ok model, s) ∧
      perform s (finish settings model) = (.ok text, after) := by
  obtain ⟨settings, between, hsettings, hnext⟩ := perform_bind_eq_ok_iff.mp h
  have hbetween := (onlyReads_settings hlaw i).eq_of_perform hsettings
  rw [hbetween] at hsettings hnext
  obtain ⟨model, read, hmodel, hfinish⟩ := perform_bind_eq_ok_iff.mp hnext
  have hread := (onlyReads_loadModel hlaw i).eq_of_perform hmodel
  rw [hread] at hmodel hfinish
  exact ⟨settings, model, hsettings, hmodel, hfinish⟩

/-- When the hubs are printed, they are those of the snapshot under the settings, and nothing has
changed. -/
theorem exists_of_run_inspect (hlaw : fs.UnchangedByReading)
    (h : perform s ({ i with action := .inspect }.run fs) = (.ok text, after)) :
    ∃ settings model discovery, perform s (i.settings fs) = (.ok settings, s) ∧
      perform s (i.loadModel fs) = (.ok model, s) ∧
      model.discover settings = .ok discovery ∧ text = inspection discovery.hubs ∧ after = s := by
  obtain ⟨settings, model, hsettings, hmodel, hfinish⟩ := exists_of_perform_run hlaw h
  dsimp only at hfinish
  split at hfinish
  · next discovery hdiscovery =>
    cases hfinish
    exact ⟨settings, model, discovery, hsettings, hmodel, hdiscovery, rfl, rfl⟩
  · cases hfinish

/-- When the document of a directory has been written, the last thing that has been done is to write its
text at its path. -/
theorem exists_write_of_writeDocument {directory : String} {document : Document}
    (h : perform s (writeDocument fs directory document) = (.ok (), after)) :
    ∃ before, (fs.write (joinPath directory document.hintName) document.text).run before =
      (true, after) := by
  unfold writeDocument at h
  obtain ⟨created, between, -, hcreated⟩ := perform_bind_eq_ok_iff.mp h
  dsimp only at hcreated
  split at hcreated
  · obtain ⟨written, last, hwrite, hwritten⟩ := perform_bind_eq_ok_iff.mp hcreated
    split at hwritten
    · next htrue =>
      rw [htrue] at hwrite
      obtain rfl := (onlyReads_pure ()).eq_of_perform hwritten
      exact ⟨between, run_eq_of_perform_liftM hwrite⟩
    · cases hwritten
  · cases hcreated

/-- When the document of hubs is rendered, they are those of the snapshot under the settings, and the
document is printed, or it has been written at its path. -/
theorem exists_of_run_generate (hlaw : fs.UnchangedByReading)
    (h : perform s ({ i with action := .generate }.run fs) = (.ok text, after)) :
    ∃ settings model discovery, perform s (i.settings fs) = (.ok settings, s) ∧
      perform s (i.loadModel fs) = (.ok model, s) ∧
      model.discover settings = .ok discovery ∧
      (i.out = none → text = (Document.ofHubs discovery.hubs settings).text ∧ after = s) ∧
      ∀ directory, i.out = some directory → text = "" ∧
        ∃ before, (fs.write (joinPath directory settings.hintName)
          (Document.ofHubs discovery.hubs settings).text).run before = (true, after) := by
  obtain ⟨settings, model, hsettings, hmodel, hfinish⟩ := exists_of_perform_run hlaw h
  dsimp only at hfinish
  split at hfinish
  · cases hfinish
  · next discovery document hgenerate =>
    obtain ⟨found, hdiscovery, hdocument⟩ := bind_eq_ok_iff.mp hgenerate
    cases hdocument
    refine ⟨settings, model, discovery, hsettings, hmodel, hdiscovery, ?_, ?_⟩
    · intro hout
      rw [hout] at hfinish
      dsimp only at hfinish
      rw [perform_pure] at hfinish
      obtain ⟨htext, hafter⟩ := Prod.mk.inj hfinish
      exact ⟨(Except.ok.inj htext).symm, hafter.symm⟩
    · intro directory hout
      rw [hout] at hfinish
      obtain ⟨_, last, hwrite, hprinted⟩ := perform_bind_eq_ok_iff.mp hfinish
      rw [perform_pure] at hprinted
      obtain ⟨htext, rfl⟩ := Prod.mk.inj hprinted
      exact ⟨(Except.ok.inj htext).symm, exists_write_of_writeDocument hwrite⟩

end Runs

/-! ### Both ways -/

/-- Lists of hubs that have been read from some text, or discovered in a snapshot among any candidates,
are read back from what they are written as: reading them is not refused, and gives the same list.

So take any file system that reading does not change. Assumes: one run prints the hubs of a snapshot and
another one renders their document, both succeed, and they begin in the same state and with the same
options. Then under the settings of both runs the document of the hubs that are read from what is
printed is the document of the other run, printed or written at its path. There it is read, if the path
reads back what is written to it. -/
theorem ofHubs_read_inspection :
    (∀ hubs : List Hub,
      ((∃ source, Json.read (Hub.listOfJson Json.maxLevels) source = .ok hubs) ∨
        ∃ (m : Model) (settings : Settings) (cancelAt : Option Nat) (nodes : List TypeDecl)
          (discovery : Discovery),
          (m.host.discover settings cancelAt nodes).result = .ok discovery ∧
            discovery.hubs = hubs) →
        Json.read (Hub.listOfJson Json.maxLevels) (Hub.listToJson hubs).compact = .ok hubs ∧
          ∀ depth, Json.read (Hub.listOfJson Json.maxLevels) ((Hub.listToJson hubs).pretty depth) =
            .ok hubs) ∧
      ∀ (σ : Type) (fs : FileSystem (StateM σ)), fs.UnchangedByReading →
        ∀ (i : Invocation) (s afterInspect afterGenerate : σ) (printed output : String),
          perform s ({ i with action := .inspect }.run fs) = (.ok printed, afterInspect) →
            perform s ({ i with action := .generate }.run fs) = (.ok output, afterGenerate) →
              ∃ settings hubs text, perform s (i.settings fs) = (.ok settings, s) ∧
                Json.read (Hub.listOfJson Json.maxLevels) printed = .ok hubs ∧
                afterInspect = s ∧ (Document.ofHubs hubs settings).text = text ∧
                (i.out = none → output = text ∧ afterGenerate = s) ∧
                ∀ directory, i.out = some directory → output = "" ∧
                  (∃ before, (fs.write (joinPath directory settings.hintName) text).run before =
                    (true, afterGenerate)) ∧
                  (fs.ReadsBack (joinPath directory settings.hintName) →
                    ((fs.read (joinPath directory settings.hintName)).run afterGenerate).1 =
                      some text) := by
  have hlevels : 2 * TypeView.maxArgumentDepth + 7 ≤ Json.maxLevels - 1 := by decide
  constructor
  · rintro hubs (⟨source, hread⟩ | ⟨m, settings, cancelAt, nodes, discovery, hresult, rfl⟩)
    · obtain ⟨hcompact, hpretty, -⟩ := Hub.read_listToJson (Hub.fits_of_read hread)
      exact ⟨hcompact, hpretty⟩
    · have hfits := Host.fits_of_result_discover hlevels hresult
      obtain ⟨hcompact, hpretty, -⟩ := Hub.read_listToJson hfits
      exact ⟨hcompact, hpretty⟩
  · intro σ fs hlaw i s afterInspect afterGenerate printed output hinspect hgenerate
    obtain ⟨settings, model, discovery, hsettings, hmodel, hdiscovery, rfl, hafter⟩ :=
      exists_of_run_inspect hlaw hinspect
    obtain ⟨others, same, found, hothers, hsame, hfound, hprinted, hwritten⟩ :=
      exists_of_run_generate hlaw hgenerate
    -- Both runs have read the same settings and the same snapshot.
    obtain rfl : settings = others :=
      Except.ok.inj (Prod.mk.inj (hsettings.symm.trans hothers)).1
    obtain rfl : model = same := Except.ok.inj (Prod.mk.inj (hmodel.symm.trans hsame)).1
    obtain rfl : discovery = found := Except.ok.inj (hdiscovery.symm.trans hfound)
    have hfits := Host.fits_of_result_discover hlevels hdiscovery
    obtain ⟨-, -, hread⟩ := Hub.read_listToJson hfits
    refine ⟨settings, discovery.hubs, _, hsettings, hread, hafter, rfl, hprinted, ?_⟩
    intro directory hout
    obtain ⟨houtput, before, hwrite⟩ := hwritten directory hout
    exact ⟨houtput, ⟨before, hwrite⟩, fun hback ↦ hback _ before afterGenerate hwrite⟩

end Invocation

/-! ### A hub in a file -/

namespace StringServer

open Invocation

/-- The snapshot as it stands in a file. -/
def source : String := snapshot.toJson.compact

/-- The file with the snapshot, in a directory beside the one in which the program is run. -/
def tree : FileTree :=
  .directory FileTree.home .nil (.directory "work" (.file "chat.json" source .nil) .nil)

/-- A run on the file, with a directory for the document. -/
def invocation (action : Action) : Invocation :=
  ⟨action, "/work/chat.json", none, some "/work/out", { hubAssembly := some "Core" }⟩

variable {action : Action} {m : Model} {discovery : Discovery}

theorem read_source : Json.read (Snapshot.ofJson Json.maxLevels) source = .ok snapshot := by
  have hparse : ∀ d ∈ snapshot.types, ∀ t ∈ d.written, TypeExpr.parse t.render = .ok t := by
    decide +kernel
  have hdecodes : Json.Decodes (Snapshot.ofJson Json.maxLevels) snapshot.toJson snapshot :=
    Snapshot.decodes (fun d hd t ht ↦ ⟨t.render, hparse d hd t ht⟩) (by decide)
  have hcompact := hdecodes.read_eq .oneLine
  simp only [Json.Layout.text, String.ofList_toList] at hcompact
  exact hcompact

theorem perform_settings :
    perform tree ((invocation action).settings FileTree.fileSystem) = (.ok settings, tree) := by
  have hreads := onlyReads_settings FileTree.unchangedByReading_fileSystem (invocation action)
  refine Prod.ext ?_ (hreads tree)
  cases action <;> decide +kernel

theorem read_tree : tree.read "/work/chat.json" = some source := by
  have hparts : FileTree.parts "/work/chat.json" = ["", "work", "chat.json"] := by decide
  have hpath : FileTree.isPath "/work/chat.json" = true := by decide +kernel
  have habsolute : FileTree.isAbsolute "/work/chat.json" = true := by decide +kernel
  unfold FileTree.read FileTree.find
  rw [hparts, hpath, habsolute]
  rfl

theorem run_read_tree : (FileTree.fileSystem.read "/work/chat.json").run tree = (some source, tree) :=
  Prod.ext read_tree rfl

/-- Any document can be written to the directory. -/
theorem exists_perform_writeDocument (content : String) : ∃ after,
    perform tree (writeDocument FileTree.fileSystem "/work/out" ⟨settings.hintName, content⟩) =
      (.ok (), after) := by
  have hmade : (perform tree (liftM (createAll FileTree.fileSystem (outward "/work/out")))).1 =
      .ok true := by decide +kernel
  have hempty : ((perform tree (liftM (createAll FileTree.fileSystem (outward "/work/out")))).2.write
      (joinPath "/work/out" settings.hintName) "").isSome := by decide +kernel
  rw [FileTree.isSome_write _ _ _ content] at hempty
  obtain ⟨after, hafter⟩ := Option.isSome_iff_exists.mp hempty
  have hwrite := FileTree.run_write
    (perform tree (liftM (createAll FileTree.fileSystem (outward "/work/out")))).2
    (joinPath "/work/out" settings.hintName) content
  rw [hafter] at hwrite
  refine ⟨after, perform_bind_eq_ok_iff.mpr ⟨true, _, Prod.ext hmade rfl, ?_⟩⟩
  refine perform_bind_eq_ok_iff.mpr ⟨true, after, ?_, rfl⟩
  rw [perform_liftM, hwrite]
  rfl

theorem perform_inspect (hm : Model.ofSnapshot snapshot = .ok m)
    (hdiscovery : m.discover settings = .ok discovery) :
    perform tree ((invocation .inspect).run FileTree.fileSystem) =
      (.ok (inspection discovery.hubs), tree) := by
  refine perform_bind_eq_ok_iff.mpr ⟨settings, tree, perform_settings, ?_⟩
  refine perform_bind_eq_ok_iff.mpr ⟨m, tree, perform_loadModel run_read_tree read_source hm, ?_⟩
  dsimp only [invocation]
  rw [hdiscovery]
  rfl

theorem exists_perform_generate (hm : Model.ofSnapshot snapshot = .ok m)
    (hdiscovery : m.discover settings = .ok discovery) : ∃ after,
    perform tree ((invocation .generate).run FileTree.fileSystem) = (.ok "", after) := by
  have hgenerate : m.generate settings =
      .ok (discovery, Document.ofHubs discovery.hubs settings) :=
    bind_eq_ok_iff.mpr ⟨discovery, hdiscovery, rfl⟩
  obtain ⟨after, hafter⟩ :=
    exists_perform_writeDocument (Document.ofHubs discovery.hubs settings).text
  refine ⟨after, perform_bind_eq_ok_iff.mpr ⟨settings, tree, perform_settings, ?_⟩⟩
  refine perform_bind_eq_ok_iff.mpr ⟨m, tree, perform_loadModel run_read_tree read_source hm, ?_⟩
  dsimp only [invocation]
  rw [hgenerate]
  exact perform_bind_eq_ok_iff.mpr ⟨(), after, hafter, rfl⟩

end StringServer

open StringServer in
/-- Both runs succeed on the snapshot with the hub class `ChatHub`. The hubs that are read from what one
of them prints include the hub of the class, and their document is in the file of the other one. -/
theorem Invocation.ofHubs_read_inspection_stringServer : ∃ printed after hubs,
    perform tree ((invocation .inspect).run FileTree.fileSystem) = (.ok printed, tree) ∧
      perform tree ((invocation .generate).run FileTree.fileSystem) = (.ok "", after) ∧
      Json.read (Hub.listOfJson Json.maxLevels) printed = .ok hubs ∧ found ∈ hubs ∧
      Json.read (Hub.listOfJson Json.maxLevels) (Hub.listToJson hubs).compact = .ok hubs ∧
      after.read "/work/out/HubBridgeGenerator.g.cs" =
        some (Document.ofHubs hubs StringServer.settings).text := by
  obtain ⟨m, assembly, hm, hmem, -, -, hhub⟩ := exists_hub?_eq
  have hdiscovery := m.discover_eq StringServer.settings
  have hinspect := perform_inspect hm hdiscovery
  obtain ⟨after, hgenerate⟩ := exists_perform_generate hm hdiscovery
  have hhubs := ofHubs_read_inspection.1 (m.host.hubs StringServer.settings m.candidates)
    (.inr ⟨m, StringServer.settings, none, m.candidates, _, hdiscovery, rfl⟩)
  obtain ⟨resolved, hubs, text, hresolved, hread, -, htext, -, hwritten⟩ :=
    ofHubs_read_inspection.2 FileTree FileTree.fileSystem FileTree.unchangedByReading_fileSystem
      (invocation .inspect) tree tree after _ _ hinspect hgenerate
  obtain rfl : resolved = StringServer.settings :=
    Except.ok.inj (Prod.mk.inj (hresolved.symm.trans perform_settings)).1
  have hlevels : 2 * TypeView.maxArgumentDepth + 7 ≤ Json.maxLevels - 1 := by decide
  have hfits := Host.fits_of_result_discover hlevels hdiscovery
  obtain ⟨-, -, hprinted⟩ := Hub.read_listToJson hfits
  obtain rfl := Except.ok.inj (hread.symm.trans hprinted)
  have hpath : joinPath "/work/out" StringServer.settings.hintName =
      "/work/out/HubBridgeGenerator.g.cs" := by decide +kernel
  obtain ⟨-, -, hfile⟩ := hwritten "/work/out" rfl
  rw [hpath] at hfile
  have hback := hfile (FileTree.readsBack_fileSystem _)
  rw [← htext] at hback
  exact ⟨_, after, _, hinspect, hgenerate, hread, List.mem_filterMap.mpr ⟨hub, hmem, hhub⟩,
    hhubs.1, hback⟩

end HubRelay
