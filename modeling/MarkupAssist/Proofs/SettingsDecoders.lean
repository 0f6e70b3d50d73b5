import MarkupAssist.Proofs.ClientSettings

/-!
# Two ways to decode settings

Settings are decoded in two places. `Settings.decode?` reads them from an object on its own.
`Config.applyClient` writes the settings in force, puts a section on top of them under keys of its
own choice (`Settings.mergeKey`), and reads the result. The two keep separate tables of the
spellings of the indent. Since the tables agree and the settings in force survive being written and
read, both come to the same closed form (`Settings.decode?_object`, `Settings.decode?_merge`), from
defaults in one case and from the settings in force in the other.

* `Settings.overlay?_completed`: settings other than the defaults show only where the section
  mentions nothing.
-/

namespace MarkupAssist

/-- The spellings of the indent. -/
def indentSpellings : List String :=
  ["indent-size", "indentSize", "indent_size"]

/-- Settings that a section leads to, except that the fields it does not mention are those of other
settings. -/
def Settings.completed (direct : Settings) (part : Json) (others : Settings) : Settings where
  indentSize :=
    if ∃ s ∈ indentSpellings, (part.get? s).isSome = true then direct.indentSize
    else others.indentSize
  quotes := if (part.get? "quotes").isSome = true then direct.quotes else others.quotes

namespace Settings

variable {members : List (Option String × Json)}

theorem withDefault?_eq_map {α : Type} (default other : α) (decode : Json → Option α)
    (mention : Option Json) :
    Json.withDefault? other decode mention =
      (Json.withDefault? default decode mention).map fun a =>
        if mention.isSome then a else other := by
  cases mention with
  | none => rfl
  | some value => simp [Json.withDefault?]

/-- **Settings other than the defaults show only where a section mentions nothing.** -/
theorem overlay?_completed (settings : Settings) (members : List (Option String × Json)) :
    settings.overlay? members =
      (overlay? {} members).map (·.completed (.object members) settings) := by
  have hindent : (Json.object members).indentMention?.isSome =
      decide (∃ s ∈ indentSpellings, ((Json.object members).get? s).isSome = true) := by
    rw [Bool.eq_iff_iff, decide_eq_true_iff, ← firstOf?_indent, Json.firstOf?,
      List.findSome?_isSome_iff]
    simp [indentSpellings, or_comm, or_left_comm]
  rw [overlay?, overlay?]
  split
  · rw [withDefault?_eq_map ({} : Settings).indentSize settings.indentSize,
      withDefault?_eq_map ({} : Settings).quotes settings.quotes, hindent, Json.quotesMention?]
    cases Json.withDefault? ({} : Settings).indentSize _ _ with
    | none => rfl
    | some indent =>
      cases Json.withDefault? ({} : Settings).quotes _ _ with
      | none => rfl
      | some quotes => simp [completed]
  · rfl

/-- What a section mentions can be told from the dictionary that it is. -/
theorem completed_dictionary (direct others : Settings) (members : List (Option String × Json)) :
    direct.completed (.object (Json.dictionary members)) others =
      direct.completed (.object members) others := by
  simp only [completed, Json.get?_dictionary, Option.isSome_map]

/-- A section on its own, read as a dictionary. -/
theorem decode?_collapsed
    (hone : ∀ s ∈ indentSpellings, ∀ t ∈ indentSpellings,
      ((Json.object members).get? s).isSome = true → ((Json.object members).get? t).isSome = true →
        s = t) :
    decode? (Json.object members).collapsed = overlay? {} (Json.dictionary members) := by
  rw [Json.collapsed_object]
  refine decode?_object (Json.inOrder_dictionary members).nodup_keys ?_
  intro s hs t ht hsmem htmem
  rw [Json.mem_keys_dictionary, ← Json.isSome_get?_iff] at hsmem htmem
  exact hone s hs t ht hsmem htmem

end Settings

/-- **The two decoders of settings agree.** A section that spells the indent in one way at most is
accepted on top of default settings exactly if it can be decoded directly, as the dictionary that it
is, and with the same result. On top of other settings the result is the directly decoded one, in
which the fields that the section does not mention are those in force. -/
theorem decoders_agree (members : List (Option String × Json))
    (hone : ∀ s ∈ indentSpellings, ∀ t ∈ indentSpellings,
      ((Json.object members).get? s).isSome = true → ((Json.object members).get? t).isSome = true →
        s = t)
    (config : Config) (payload : Json)
    (hpart : payload.get? "flow-helper" = some (.object members)) :
    (config.settings = {} →
      config.applyClient payload =
        (Settings.decode? (Json.object members).collapsed).elim .refused
          fun direct => .accepted { config with settings := direct }) ∧
      config.applyClient payload =
        (Settings.decode? (Json.object members).collapsed).elim .refused
          fun direct => .accepted
            { config with settings := direct.completed (.object members) config.settings } := by
  have happly := Config.applyClient_object config hpart
  rw [Config.sectionSettings?_object] at happly
  rw [Settings.decode?_collapsed hone]
  refine ⟨fun hdefault => ?_, ?_⟩
  · rw [happly, hdefault]
  · rw [happly, Settings.overlay?_completed]
    cases Settings.overlay? {} (Json.dictionary members) with
    | none => rfl
    | some direct =>
      rw [Option.map_some, Option.elim_some, Option.elim_some, Settings.completed_dictionary]

/-- A section with another spelling of the indent, which is given twice, and a member that is not
looked at. -/
def camelSection : List (String × Json) :=
  [("indentSize", .number ⟨false, [4], [], none⟩), ("theme", .text "dark"),
   ("indentSize", .number ⟨false, [8], [], none⟩)]

/-- The quotes stay those in force, which for default settings are those of direct decoding. -/
theorem decoders_agree_camelSection :
    Settings.decode? (Json.record camelSection).collapsed = some ⟨8, .double⟩ ∧
      Config.applyClient {} (settingsPayload camelSection) =
        .accepted { settings := ⟨8, .double⟩ } ∧
      Config.applyClient { settings := ⟨6, .single⟩ } (settingsPayload camelSection) =
        .accepted { settings := ⟨8, .single⟩ } := by
  have hone : ∀ s ∈ indentSpellings, ∀ t ∈ indentSpellings,
      ((Json.record camelSection).get? s).isSome = true →
        ((Json.record camelSection).get? t).isSome = true → s = t := by decide
  have hpart : (settingsPayload camelSection).get? "flow-helper" =
      some (Json.record camelSection) := rfl
  have hdirect : Settings.decode? (Json.record camelSection).collapsed = some ⟨8, .double⟩ := by
    decide +kernel
  refine ⟨hdirect, ?_, ?_⟩
  · rw [(decoders_agree _ hone {} _ hpart).1 rfl]
    exact congrArg (Option.elim · _ _) hdirect
  · rw [(decoders_agree _ hone { settings := ⟨6, .single⟩ } _ hpart).2]
    refine (congrArg (Option.elim · _ _) hdirect).trans ?_
    decide +kernel

end MarkupAssist
