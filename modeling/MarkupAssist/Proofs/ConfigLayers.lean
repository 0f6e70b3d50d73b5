import Mathlib.Data.String.Basic
import MarkupAssist.Proofs.ClientSettings

/-!
# Where the configuration comes from

With its first request the server takes its configuration from three layers: the configuration it
was started with, that of the workspace, and the options of the editor.

* `Config.load_of_text`: a configuration file is loaded by what its text holds.
* `Config.Searches`: the server looks for a configuration file in the folder of the workspace.
* `Config.Underlies`: the configuration that the options come on top of. A workspace replaces the
  configuration at the start as a whole, by its file or, if it has none, by the defaults; a broken
  file does not. There is exactly one such configuration (`Config.underlies_iff`).
* `Gives`: the options assign a value to a setting. They are merged key by key, and touch nothing
  but the settings.

`config_after_start` puts the layers together. `config_lost_without_file` shows that a workspace
without a configuration file does not leave the configuration alone.
-/

namespace MarkupAssist

/-! ### Configuration files -/

/-- A name without a slash is a path of one step. -/
theorem splitOn_of_notMem {name : String} (hname : '/' ∉ name.toList) :
    name.splitOn "/" = [name] := by
  -- along the name, which stays in one piece up to the place that is reached
  have hwalk : ∀ front rest : List Char, front ++ rest = name.toList →
      (String.ofList (front ++ rest)).splitOnAux "/" 0 ⟨String.utf8Len front⟩ 0 [] =
        [String.ofList (front ++ rest)] := by
    intro front rest
    induction rest generalizing front with
    | nil =>
      intro _
      have hextract := String.extract_of_valid [] front []
      simp only [String.utf8Len_nil, Nat.zero_add, List.nil_append] at hextract
      rw [String.splitOnAux, if_pos ((String.atEnd_of_valid front []).mpr rfl)]
      exact congrArg (fun s => [s]) (hextract.trans (by rw [List.append_nil]))
    | cons c rest ih =>
      intro hsplit
      have hc : c ≠ '/' := by
        rintro rfl
        exact hname (by simp [← hsplit])
      have hnext := ih (front ++ [c]) (by simpa using hsplit)
      rw [List.append_assoc, List.singleton_append, String.utf8Len_append, String.utf8Len_cons,
        String.utf8Len_nil, Nat.zero_add] at hnext
      have hslash : String.Pos.Raw.get "/" 0 = '/' := by decide +kernel
      have hback : (⟨String.utf8Len front⟩ : String.Pos.Raw).unoffsetBy 0 =
          ⟨String.utf8Len front⟩ := by simp [String.Pos.Raw.unoffsetBy]
      have hmore := (String.atEnd_of_valid front (c :: rest)).not.mpr (List.cons_ne_nil c rest)
      rw [String.splitOnAux, if_neg hmore, String.get_of_valid, hslash,
        if_neg (by simpa using hc), hback, String.next_of_valid, hnext]
  have hall := hwalk [] name.toList rfl
  rw [List.nil_append, String.ofList_toList] at hall
  simpa [String.splitOn] using hall

namespace Config

/-- The configuration file of a folder is loaded by the text that it holds. -/
theorem load_of_text {folder : Folder} {file text : String} (hfind : find? folder = some file)
    (hcontent : folder.get? file = some (.file text.toUTF8)) :
    load folder file = (ofText? text).elim (.error (.parse file)) .ok := by
  have hname : FilePath.start ⟨file⟩ = [] ∧ FilePath.isEntry file = true ∧
      ¬ file.utf8ByteSize > FilePath.nameLimit ∧ '/' ∉ file.toList ∧
      FilePath.placeName (FilePath.follow [] file) = file := by
    have hmem := List.mem_of_find?_eq_some hfind
    simp only [fileNames, List.mem_cons, List.not_mem_nil, or_false] at hmem
    rcases hmem with rfl | rfl | rfl | rfl <;> decide +kernel
  obtain ⟨hstart, hentry, hlimit, hslash, hplace⟩ := hname
  have hwalk : FilePath.walk folder [] [file] = .ok text.toUTF8 := by
    rw [FilePath.walk]
    simp [hentry, hlimit, hplace, Folder.entry?, hcontent]
  have hdecode : String.fromUTF8? text.toUTF8 = some text := dif_pos text.isValidUTF8
  have hread : FilePath.readIn ⟨file⟩ folder = .ok text := by
    simp only [FilePath.readIn, splitOn_of_notMem hslash, hstart, hwalk, bind, Except.bind, hdecode]
  simp only [load, hread]
  cases ofText? text <;> rfl

/-! ### The workspace -/

/-- A configuration file is looked for in the folder at `uri`. -/
def Searches (config : Config) (root : Option Uri) (uri : Uri) : Prop :=
  config.server.workspaceDiscovery = true ∧ root = some uri ∧ uri.hasLocalPath = true

/-- The configuration that a workspace leads to. -/
inductive Underlies (folderAt : Uri → Folder) (config : Config) (root : Option Uri) : Config → Prop
  /-- The workspace has a configuration file that can be loaded. -/
  | loaded {uri : Uri} {file : String} {found : Config} (hsearch : config.Searches root uri)
      (hfile : find? (folderAt uri) = some file) (hload : load (folderAt uri) file = .ok found) :
    Underlies folderAt config root found
  /-- The workspace has no configuration file. -/
  | fileless {uri : Uri} (hsearch : config.Searches root uri)
      (hnone : find? (folderAt uri) = none) : Underlies folderAt config root {}
  /-- No file is looked for, or the file cannot be loaded. -/
  | kept (hbroken : ∀ uri, config.Searches root uri → ∃ file cause,
      find? (folderAt uri) = some file ∧ load (folderAt uri) file = .error cause) :
    Underlies folderAt config root config

variable {folderAt : Uri → Folder} {config base : Config} {root : Option Uri} {uri : Uri}

theorem discoverConfig_of_searches (hsearch : config.Searches root uri) :
    Server.discoverConfig folderAt config root =
      (discover (folderAt uri)).toOption.getD config := by
  obtain ⟨hdiscovery, rfl, hlocal⟩ := hsearch
  simp only [Server.discoverConfig, hdiscovery, hlocal, Bool.and_self, if_true]
  cases discover (folderAt uri) <;> rfl

theorem discoverConfig_of_not_searches (hnot : ∀ uri, ¬ config.Searches root uri) :
    Server.discoverConfig folderAt config root = config := by
  cases root with
  | none => rfl
  | some uri =>
    refine if_neg fun h => hnot uri ?_
    rw [Bool.and_eq_true] at h
    exact ⟨h.1, rfl, h.2⟩

/-- **A workspace leads to one configuration.** -/
theorem underlies_iff :
    Underlies folderAt config root base ↔ base = Server.discoverConfig folderAt config root := by
  constructor
  · intro h
    cases h with
    | loaded hsearch hfile hload =>
      rw [discoverConfig_of_searches hsearch, discover, hfile]
      simp only [hload, Except.toOption, Option.getD_some]
    | fileless hsearch hnone =>
      rw [discoverConfig_of_searches hsearch, discover, hnone]
      rfl
    | kept hbroken =>
      by_cases hsearch : ∃ uri, config.Searches root uri
      · obtain ⟨uri, hsearch⟩ := hsearch
        obtain ⟨file, cause, hfile, hload⟩ := hbroken uri hsearch
        rw [discoverConfig_of_searches hsearch, discover, hfile]
        simp only [hload, Except.toOption, Option.getD_none]
      · exact (discoverConfig_of_not_searches (not_exists.mp hsearch)).symm
  · rintro rfl
    by_cases hsearch : ∃ uri, config.Searches root uri
    · obtain ⟨uri, hsearch⟩ := hsearch
      rw [discoverConfig_of_searches hsearch, discover]
      cases hfile : find? (folderAt uri) with
      | none => exact .fileless hsearch hfile
      | some file =>
        cases hload : load (folderAt uri) file with
        | ok found =>
          simp only [hload, Except.toOption, Option.getD_some]
          exact .loaded hsearch hfile hload
        | error cause =>
          simp only [hload, Except.toOption, Option.getD_none]
          refine .kept fun uri' hsearch' => ?_
          obtain rfl : uri = uri' := Option.some.inj (hsearch.2.1.symm.trans hsearch'.2.1)
          exact ⟨file, cause, hfile, hload⟩
    · rw [discoverConfig_of_not_searches (not_exists.mp hsearch)]
      exact .kept fun uri h => absurd ⟨uri, h⟩ hsearch

end Config

/-! ### The options of the editor -/

/-- The options assign a value to a setting. -/
def Gives {α : Type} (Is : Json → α → Prop) (mention? : Json → Option Json) (options : Option Json)
    (a : α) : Prop :=
  ∃ payload, options = some payload ∧ Assigns Is mention? payload a

theorem turns_gives_some {α : Type} {Is : Json → α → Prop} {mention? : Json → Option Json}
    {payload : Json} {old new : α} (h : Turns (Assigns Is mention? payload) old new) :
    Turns (Gives Is mention? (some payload)) old new := by
  obtain hnew | ⟨hnone, rfl⟩ := h
  · exact .inl ⟨payload, rfl, hnew⟩
  · refine .inr ⟨?_, rfl⟩
    rintro a ⟨payload', heq, ha⟩
    exact hnone a (Option.some.inj heq ▸ ha)

theorem turns_gives_none {α : Type} {Is : Json → α → Prop} {mention? : Json → Option Json}
    (old : α) : Turns (Gives Is mention? none) old old := by
  refine .inr ⟨?_, rfl⟩
  rintro a ⟨payload, heq, -⟩
  cases heq

/-! ### The layers -/

/-- **The configuration after the first request.** Only the configuration of the server changes. Its
own options are those of the workspace's configuration file, if one is looked for, found and loaded;
they are the defaults if one is looked for and there is none; otherwise they are those at the start.
Each setting is the one that the options of the editor assign, if their section is accepted and
mentions it, and else comes from the same configuration as the server's own options. -/
theorem config_after_start (server : Server) (folderAt : Uri → Folder) (root : Option Uri)
    (options : Option Json) (hobject : ∀ payload, options = some payload → InObject payload) :
    ∃ base final : Config, server.start folderAt root options = { server with config := final } ∧
      (∀ c, Config.Underlies folderAt server.config root c ↔ c = base) ∧
      final.server = base.server ∧
      Turns (Gives IsIndent Json.indentMention? options) base.settings.indentSize
        final.settings.indentSize ∧
      Turns (Gives IsQuotes Json.quotesMention? options) base.settings.quotes
        final.settings.quotes := by
  cases options with
  | none =>
    exact ⟨_, _, rfl, fun c => Config.underlies_iff, rfl, turns_gives_none _, turns_gives_none _⟩
  | some payload =>
    have hturns := turns_afterClient (Server.discoverConfig folderAt server.config root)
      (hobject payload rfl)
    exact ⟨_, _, rfl, fun c => Config.underlies_iff, Config.server_afterClient _ _,
      turns_gives_some hturns.1, turns_gives_some hturns.2⟩

/-- A configuration that has no setting in common with the defaults. -/
def houseConfig : Config :=
  { server := { name := "house", languages := ["vue"] }, settings := ⟨3, .single⟩ }

/-- The folder of a workspace. -/
def workspaceUri : Uri :=
  ⟨"file".toList, some ⟨[], [], none⟩, "/w".toList, none, none⟩

/-- A folder with a configuration file. -/
def configuredFolder : Folder :=
  [(".flow-lsp.yml", .file "engine:\n  name: ws".toUTF8)]

/-- Options of an editor that mention one of the settings. -/
def quotesOptions : Json :=
  settingsPayload [("quotes", .text "single")]

theorem config_after_start_layers :
    InObject quotesOptions ∧
      Config.Underlies (fun _ => configuredFolder) houseConfig (some workspaceUri)
        { server := { name := "ws" } } ∧
      ∃ final, Server.start ⟨labelledCatalogue, houseConfig, {}⟩ (fun _ => configuredFolder)
          (some workspaceUri) (some quotesOptions) = ⟨labelledCatalogue, final, {}⟩ ∧
        final.server.name = "ws" ∧ final.settings = ⟨2, .single⟩ := by
  have hobject : InObject quotesOptions := by
    rintro part ⟨rfl⟩
    exact ⟨_, rfl⟩
  have htext : Config.ofText? "engine:\n  name: ws" = some { server := { name := "ws" } } := by
    decide +kernel
  have hfind : Config.find? configuredFolder = some ".flow-lsp.yml" := by decide +kernel
  have hcontent : configuredFolder.get? ".flow-lsp.yml" =
      some (.file "engine:\n  name: ws".toUTF8) := rfl
  have hload := Config.load_of_text hfind hcontent
  rw [htext] at hload
  have hunder : Config.Underlies (fun _ => configuredFolder) houseConfig (some workspaceUri)
      { server := { name := "ws" } } :=
    .loaded ⟨rfl, rfl, by decide⟩ hfind hload
  obtain ⟨base, final, hstart, hbase, hserver, hindent, hquotes⟩ :=
    config_after_start ⟨labelledCatalogue, houseConfig, {}⟩ (fun _ => configuredFolder)
      (some workspaceUri) (some quotesOptions)
      (fun payload heq => Option.some.inj heq ▸ hobject)
  obtain rfl := (hbase _).mp hunder
  refine ⟨hobject, hunder, final, hstart, congrArg ServerOptions.name hserver, ?_⟩
  have hfinal : final = Config.afterClient { server := { name := "ws" } } quotesOptions :=
    (congrArg Server.config hstart).symm.trans
      (congrArg (Config.afterClient · quotesOptions) (Config.underlies_iff.mp hunder).symm)
  rw [hfinal]
  decide +kernel

/-- **A workspace without a configuration file takes the configuration at the start away**, although
no file has replaced it. -/
theorem config_lost_without_file :
    houseConfig.Searches (some workspaceUri) workspaceUri ∧ Config.find? [] = none ∧
      (Server.start ⟨{}, houseConfig, {}⟩ (fun _ => []) (some workspaceUri) none).config = {} ∧
      houseConfig.server.name ≠ ({} : Config).server.name ∧
      houseConfig.settings.indentSize ≠ ({} : Config).settings.indentSize ∧
      houseConfig.settings.quotes ≠ ({} : Config).settings.quotes := by
  exact ⟨⟨rfl, rfl, by decide⟩, rfl, by decide +kernel, by decide, by decide, by decide⟩

end MarkupAssist
