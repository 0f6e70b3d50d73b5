import MarkupAssist.Proofs.SessionRun
import MarkupAssist.Proofs.SettingsMerge

/-!
# Settings after many payloads

A client changes the settings by one payload after the other. What the settings are in the end can
be said without the configurations in between: each of them has the value that the last payload gave
it, among those that were accepted.

* `IsIndent` and `IsQuotes` tell which values are well typed, and what they stand for. A section is
  well typed if the values that count in it are (`Json.WellTyped`).
* `Config.sectionSettings?_eq_some_iff`: a section that is accepted gives each setting that it
  mentions its value there and leaves the others alone (`Becomes`). Otherwise it is refused as a
  whole (`Config.sectionSettings?_eq_none_iff`). Both are about the section as it was written, and
  rest on `Settings.decode?_merge`.
* `Latest`: the value that the last of some payloads gives a setting. It is found by going through
  the payloads (`latest_foldl`), since one payload either gives the setting a value or keeps it.
-/

namespace MarkupAssist

/-! ### Values -/

/-- An indent as JSON: a natural number of 64 bits without sign, fraction and exponent. -/
inductive IsIndent : Json → UInt64 → Prop
  | number {digits : List Nat} {n : UInt64} (hvalue : digitsValue digits = n.toNat) :
    IsIndent (.number ⟨false, digits, [], none⟩) n

/-- A quotation mark as JSON: its name, or an object with that name and null. The name may be
repeated, and then the last value under it is null. -/
inductive IsQuotes : Json → QuoteStyle → Prop
  | name (style : QuoteStyle) : IsQuotes (.string (some style.name)) style
  | tagged (style : QuoteStyle) {members : List (Option String × Json)}
      (honly : ∀ key ∈ members.map (·.1), key = some style.name)
      (hnull : (Json.object members).get? style.name = some .null) :
    IsQuotes (.object members) style

theorem word?_eq_some_iff {value : Json} {n : UInt64} :
    value.word? = some n ↔ IsIndent value n := by
  constructor
  · intro h
    obtain ⟨v, hv, rfl⟩ := Option.map_eq_some_iff.mp h
    cases value with
    | number literal =>
      obtain ⟨negative, digits, fraction, exponent⟩ := literal
      rw [Json.natBelow?, NumberLiteral.toNatBelow?] at hv
      split at hv
      · next hform =>
        simp only [NumberLiteral.isInteger, Bool.and_eq_true, List.isEmpty_iff,
          Option.isNone_iff_eq_none, Bool.not_eq_true', decide_eq_true_eq] at hform
        obtain ⟨⟨⟨rfl, rfl⟩, rfl⟩, hlt⟩ := hform
        obtain rfl := Option.some.inj hv
        exact .number (UInt64.toNat_ofNat_of_lt' hlt).symm
      · cases hv
    | _ => cases hv
  · rintro ⟨hvalue⟩
    have hlt : n.toNat < UInt64.size := n.toNat_lt
    simp [Json.word?, Json.natBelow?, NumberLiteral.toNatBelow?, NumberLiteral.isInteger, hvalue,
      hlt]

theorem word?_collapsed_eq_some_iff (value : Json) (n : UInt64) :
    value.collapsed.word? = some n ↔ IsIndent value n := by
  rw [← word?_eq_some_iff]
  cases value <;> rfl

theorem QuoteStyle.ofName?_eq_some_iff {name : String} {style : QuoteStyle} :
    ofName? name = some style ↔ name = style.name := by
  unfold ofName?
  constructor
  · intro h
    split at h
    · next hname =>
      obtain rfl := Option.some.inj h
      exact hname
    · split at h
      · next hname =>
        obtain rfl := Option.some.inj h
        exact hname
      · cases h
  · rintro rfl
    cases style <;> decide

theorem constant?_collapsed_eq_some_iff (value : Json) (style : QuoteStyle) :
    value.collapsed.constant? QuoteStyle.ofName? = some style ↔ IsQuotes value style := by
  constructor
  · intro h
    unfold Json.constant? at h
    split at h
    · next name heq =>
      rw [QuoteStyle.ofName?_eq_some_iff.mp h] at heq
      cases value with
      | string text =>
        obtain rfl := Json.string.inj heq
        exact .name style
      | _ => simp [Json.collapsed] at heq
    · next name heq =>
      rw [QuoteStyle.ofName?_eq_some_iff.mp h] at heq
      cases value with
      | object members =>
        rw [Json.collapsed_object, Json.object.injEq] at heq
        refine .tagged style (fun key hkey => ?_) ?_
        · rw [← Json.mem_keys_dictionary, heq] at hkey
          exact List.mem_singleton.mp hkey
        · have hget := Json.get?_dictionary members style.name
          rw [heq, get?_singleton, if_pos rfl] at hget
          obtain ⟨value, hvalue, hnull⟩ := Option.map_eq_some_iff.mp hget.symm
          rw [hvalue, Json.collapsed_eq_null_iff.mp hnull]
      | _ => simp [Json.collapsed] at heq
    · cases h
  · rintro (_ | @⟨_, members, honly, hnull⟩)
    · exact QuoteStyle.ofName?_eq_some_iff.mpr rfl
    · -- however often the name is repeated, the dictionary has one member
      have hmem : (some style.name, .null) ∈ Json.dictionary members := by
        rw [← Json.get?_eq_some_iff (Json.inOrder_dictionary members), Json.get?_dictionary, hnull]
        rfl
      have hkeys : ∀ key ∈ (Json.dictionary members).map (·.1), key = some style.name := by
        intro key hkey
        exact honly key ((Json.mem_keys_dictionary members key).mp hkey)
      rw [Json.collapsed_object, (Json.inOrder_dictionary members).eq_singleton hkeys hmem]
      exact QuoteStyle.ofName?_eq_some_iff.mpr rfl

/-! ### Sections -/

/-- The keys of an object are texts. One with half of a surrogate pair in a key is refused as a
whole. -/
def Json.TextKeys (part : Json) : Prop :=
  ∀ members, part = .object members → none ∉ members.map (·.1)

/-- The values that count in a section are well typed, and its keys are texts. -/
structure Json.WellTyped (part : Json) : Prop where
  keys : part.TextKeys
  indent : ∀ value, part.indentMention? = some value → ∃ n, IsIndent value n
  quotes : ∀ value, part.quotesMention? = some value → ∃ style, IsQuotes value style

/-- A setting becomes what is mentioned of it, or stays as it was. -/
def Becomes {α : Type} (Is : Json → α → Prop) (mention : Option Json) (old new : α) : Prop :=
  (mention = none ∧ new = old) ∨ ∃ value, mention = some value ∧ Is value new

theorem exists_becomes_iff {α : Type} {Is : Json → α → Prop} {mention : Option Json} {old : α} :
    (∃ new, Becomes Is mention old new) ↔ ∀ value, mention = some value → ∃ a, Is value a := by
  cases mention with
  | none => simp [Becomes]
  | some value => simp [Becomes]

theorem withDefault?_eq_some_iff {α : Type} {Is : Json → α → Prop} {decode : Json → Option α}
    (hdecode : ∀ value a, decode value.collapsed = some a ↔ Is value a) {mention : Option Json}
    {old new : α} :
    Json.withDefault? old decode (mention.map Json.collapsed) = some new ↔
      Becomes Is mention old new := by
  cases mention with
  | none => simp [Json.withDefault?, Becomes, eq_comm]
  | some value => simp [Json.withDefault?, Becomes, hdecode]

theorem indentMention?_dictionary (members : List (Option String × Json)) :
    (Json.object (Json.dictionary members)).indentMention? =
      ((Json.object members).indentMention?).map Json.collapsed := by
  simp only [Json.indentMention?, Json.get?_dictionary, Option.map_or]

theorem textKeys_object {members : List (Option String × Json)} :
    (Json.object members).TextKeys ↔ none ∉ members.map (·.1) := by
  constructor
  · intro h
    exact h members rfl
  · rintro h _ ⟨rfl⟩
    exact h

namespace Config

variable {config : Config} {members : List (Option String × Json)}

theorem sectionSettings?_object (config : Config) (members : List (Option String × Json)) :
    config.sectionSettings? (Json.object members).collapsed =
      config.settings.overlay? (Json.dictionary members) := by
  rw [sectionSettings?, Json.collapsed_object,
    Settings.decode?_merge _ (Json.inOrder_dictionary members)]

/-- **A section that is accepted** gives each setting that it mentions its value there and leaves
the others alone. -/
theorem sectionSettings?_eq_some_iff {next : Settings} :
    config.sectionSettings? (Json.object members).collapsed = some next ↔
      (Json.object members).TextKeys ∧
        Becomes IsIndent (Json.object members).indentMention? config.settings.indentSize
          next.indentSize ∧
        Becomes IsQuotes (Json.object members).quotesMention? config.settings.quotes
          next.quotes := by
  have hkeys : (Json.dictionary members).all (·.1.isSome) = true ↔
      (Json.object members).TextKeys := by
    rw [Settings.all_isSome_iff, Json.mem_keys_dictionary, textKeys_object]
  rw [← withDefault?_eq_some_iff word?_collapsed_eq_some_iff,
    ← withDefault?_eq_some_iff constant?_collapsed_eq_some_iff, ← hkeys, sectionSettings?_object,
    Settings.overlay?, indentMention?_dictionary, Json.quotesMention?, Json.get?_dictionary,
    ← Json.quotesMention?]
  obtain ⟨indent, quotes⟩ := next
  split
  · next htext => simp [htext, Option.bind_eq_some_iff]
  · next htext => simp [htext]

theorem exists_sectionSettings?_iff :
    (∃ next, config.sectionSettings? (Json.object members).collapsed = some next) ↔
      (Json.object members).WellTyped := by
  constructor
  · rintro ⟨next, hnext⟩
    obtain ⟨hkeys, hindent, hquotes⟩ := sectionSettings?_eq_some_iff.mp hnext
    exact ⟨hkeys, exists_becomes_iff.mp ⟨_, hindent⟩, exists_becomes_iff.mp ⟨_, hquotes⟩⟩
  · rintro ⟨hkeys, hindent, hquotes⟩
    obtain ⟨n, hn⟩ := exists_becomes_iff.mpr hindent
    obtain ⟨style, hstyle⟩ := exists_becomes_iff.mpr hquotes
    exact ⟨⟨n, style⟩, sectionSettings?_eq_some_iff.mpr ⟨hkeys, hn, hstyle⟩⟩

theorem sectionSettings?_eq_none_iff :
    config.sectionSettings? (Json.object members).collapsed = none ↔
      ¬ (Json.object members).WellTyped := by
  rw [Option.eq_none_iff_forall_ne_some, ← not_exists]
  exact not_congr exists_sectionSettings?_iff

end Config

/-- The keys that are looked at in a section. -/
def settingKeys : List String :=
  ["indent_size", "indentSize", "indent-size", "quotes"]

/-- An object without the members under other texts than the keys that are looked at in a
section. -/
def onlySettings (members : List (Option String × Json)) : Json :=
  .object (members.filter fun m => m.1.all settingKeys.contains)

theorem textKeys_onlySettings (members : List (Option String × Json)) :
    (onlySettings members).TextKeys ↔ (Json.object members).TextKeys := by
  rw [onlySettings, textKeys_object, textKeys_object]
  simp

/-- Members that are not looked at make no difference. -/
theorem sectionSettings?_onlySettings (config : Config)
    (members : List (Option String × Json)) :
    config.sectionSettings? (onlySettings members).collapsed =
      config.sectionSettings? (Json.object members).collapsed := by
  have hget {key : String} (hkey : key ∈ settingKeys) :
      (onlySettings members).get? key = (Json.object members).get? key :=
    get?_filter members (List.contains_iff_mem.mpr hkey)
  have hindent : (onlySettings members).indentMention? = (Json.object members).indentMention? := by
    rw [Json.indentMention?, Json.indentMention?, hget (show "indent_size" ∈ _ by decide),
      hget (show "indentSize" ∈ _ by decide), hget (show "indent-size" ∈ _ by decide)]
  have hquotes : (onlySettings members).quotesMention? = (Json.object members).quotesMention? :=
    hget (by decide)
  ext next
  rw [Config.sectionSettings?_eq_some_iff, ← textKeys_onlySettings, ← hindent, ← hquotes]
  exact Config.sectionSettings?_eq_some_iff

/-! ### One payload -/

/-- A payload assigns a value to a setting: its section is well typed and mentions the setting
with that value. -/
def Assigns {α : Type} (Is : Json → α → Prop) (mention? : Json → Option Json) (payload : Json)
    (a : α) : Prop :=
  ∃ part value, payload.get? "flow-helper" = some part ∧ part.WellTyped ∧
    mention? part = some value ∧ Is value a

/-- The settings in a payload, if it has some, are an object. -/
def InObject (payload : Json) : Prop :=
  ∀ part, payload.get? "flow-helper" = some part → ∃ members, part = .object members

/-- What a payload can do to a setting: assign a value to it, or keep it if it assigns none. -/
def Turns {α : Type} (assigns : α → Prop) (old new : α) : Prop :=
  assigns new ∨ (∀ a, ¬ assigns a) ∧ new = old

namespace Config

variable {config : Config} {payload : Json} {members : List (Option String × Json)}

theorem applyClient_absent (config : Config) (hpart : payload.get? "flow-helper" = none) :
    config.applyClient payload = .absent := by
  rw [applyClient, settingsSection, Json.get?_collapsed, hpart]
  rfl

theorem applyClient_object (config : Config)
    (hpart : payload.get? "flow-helper" = some (.object members)) :
    config.applyClient payload =
      (config.sectionSettings? (Json.object members).collapsed).elim .refused
        fun settings => .accepted { config with settings } := by
  rw [applyClient, settingsSection, Json.get?_collapsed, hpart, Option.map_some]
  dsimp only
  cases config.sectionSettings? (Json.object members).collapsed <;> rfl

theorem afterClient_eq_self (hnot : ∀ next, config.applyClient payload ≠ .accepted next) :
    config.afterClient payload = config := by
  unfold afterClient
  split
  · next h => exact absurd h (hnot _)
  · rfl

theorem afterClient_of_accepted {next : Config} (h : config.applyClient payload = .accepted next) :
    config.afterClient payload = next := by
  rw [afterClient, h]

end Config

section Turns

variable {α : Type} {Is : Json → α → Prop} {mention? : Json → Option Json} {payload part : Json}
  {old new : α}

theorem turns_of_becomes (hpart : payload.get? "flow-helper" = some part) (htyped : part.WellTyped)
    (hbecomes : Becomes Is (mention? part) old new) :
    Turns (Assigns Is mention? payload) old new := by
  obtain ⟨hnone, hsame⟩ | ⟨value, hvalue, his⟩ := hbecomes
  · refine .inr ⟨?_, hsame⟩
    rintro a ⟨part', value, hpart', -, hvalue, -⟩
    obtain rfl : part = part' := Option.some.inj (hpart.symm.trans hpart')
    rw [hnone] at hvalue
    cases hvalue
  · exact .inl ⟨part, value, hpart, htyped, hvalue, his⟩

theorem not_assigns_of_none (hpart : payload.get? "flow-helper" = none) (a : α) :
    ¬ Assigns Is mention? payload a := by
  rintro ⟨part, value, hpart', -⟩
  rw [hpart] at hpart'
  cases hpart'

theorem not_assigns_of_not_wellTyped (hpart : payload.get? "flow-helper" = some part)
    (hill : ¬ part.WellTyped) (a : α) : ¬ Assigns Is mention? payload a := by
  rintro ⟨part', value, hpart', htyped, -⟩
  obtain rfl : part = part' := Option.some.inj (hpart.symm.trans hpart')
  exact hill htyped

end Turns

/-- One payload: both settings turn together, since a section is accepted or refused as a whole. -/
theorem turns_afterClient (config : Config) {payload : Json} (hobject : InObject payload) :
    Turns (Assigns IsIndent Json.indentMention? payload) config.settings.indentSize
        (config.afterClient payload).settings.indentSize ∧
      Turns (Assigns IsQuotes Json.quotesMention? payload) config.settings.quotes
        (config.afterClient payload).settings.quotes := by
  cases hpart : payload.get? "flow-helper" with
  | none =>
    rw [Config.afterClient_eq_self (by simp [Config.applyClient_absent config hpart])]
    exact ⟨.inr ⟨not_assigns_of_none hpart, rfl⟩, .inr ⟨not_assigns_of_none hpart, rfl⟩⟩
  | some part =>
    obtain ⟨members, rfl⟩ := hobject part hpart
    have happly := Config.applyClient_object config hpart
    cases hsection : config.sectionSettings? (Json.object members).collapsed with
    | none =>
      have hill := Config.sectionSettings?_eq_none_iff.mp hsection
      rw [hsection] at happly
      rw [Config.afterClient_eq_self (by simp [happly])]
      exact ⟨.inr ⟨not_assigns_of_not_wellTyped hpart hill, rfl⟩,
        .inr ⟨not_assigns_of_not_wellTyped hpart hill, rfl⟩⟩
    | some settings =>
      have htyped := Config.exists_sectionSettings?_iff.mp ⟨settings, hsection⟩
      obtain ⟨-, hindent, hquotes⟩ := Config.sectionSettings?_eq_some_iff.mp hsection
      rw [hsection] at happly
      rw [Config.afterClient_of_accepted happly]
      exact ⟨turns_of_becomes hpart htyped hindent, turns_of_becomes hpart htyped hquotes⟩

/-! ### Many payloads -/

/-- The value of a setting after some payloads: the one that the last payload with a value for it
assigns, or the value at the start. -/
inductive Latest {α : Type} (assigns : Json → α → Prop) (start : α) : List Json → α → Prop
  | kept {payloads : List Json} (hnone : ∀ p ∈ payloads, ∀ a, ¬ assigns p a) :
    Latest assigns start payloads start
  | assigned (before : List Json) {after : List Json} {p : Json} {a : α} (hp : assigns p a)
      (hnone : ∀ q ∈ after, ∀ b, ¬ assigns q b) :
    Latest assigns start (before ++ p :: after) a

theorem Latest.cons {α : Type} {assigns : Json → α → Prop} {start next a : α} {p : Json}
    {payloads : List Json} (hturn : Turns (assigns p) start next)
    (hlatest : Latest assigns next payloads a) : Latest assigns start (p :: payloads) a := by
  cases hlatest with
  | kept hnone =>
    obtain hp | ⟨hp, rfl⟩ := hturn
    · exact .assigned [] hp hnone
    · exact .kept (List.forall_mem_cons.mpr ⟨hp, hnone⟩)
  | assigned before hq hnone => exact .assigned (p :: before) hq hnone

/-- A setting along a run, from what one payload does to it. -/
theorem latest_foldl {α : Type} {assigns : Json → α → Prop} {setting : Config → α}
    {payloads : List Json}
    (hturn : ∀ p ∈ payloads, ∀ config : Config,
      Turns (assigns p) (setting config) (setting (config.afterClient p))) (config : Config) :
    Latest assigns (setting config) payloads
      (setting (payloads.foldl Config.afterClient config)) := by
  induction payloads generalizing config with
  | nil => exact .kept (by simp)
  | cons p payloads ih =>
    obtain ⟨hp, hrest⟩ := List.forall_mem_cons.mp hturn
    exact (ih hrest (config.afterClient p)).cons (hp config)

theorem server_foldl_afterClient (config : Config) (payloads : List Json) :
    (payloads.foldl Config.afterClient config).server = config.server := by
  induction payloads generalizing config with
  | nil => rfl
  | cons p payloads ih => rw [List.foldl_cons, ih, Config.server_afterClient]

/-- After any payloads whose settings are objects the server's own options are unchanged, and each
setting has the value that the last accepted payload with a value for it assigns. A payload without
settings changes nothing. Neither does one with an ill typed value, which is refused, whereas every
other is accepted; members that are not looked at make no difference to it. -/
theorem settings_after_payloads (config : Config) (payloads : List Json)
    (hobjects : ∀ p ∈ payloads, InObject p) :
    ((payloads.foldl Config.afterClient config).server = config.server ∧
        Latest (Assigns IsIndent Json.indentMention?) config.settings.indentSize payloads
          (payloads.foldl Config.afterClient config).settings.indentSize ∧
        Latest (Assigns IsQuotes Json.quotesMention?) config.settings.quotes payloads
          (payloads.foldl Config.afterClient config).settings.quotes) ∧
      ∀ p ∈ payloads, ∀ c : Config,
        (p.get? "flow-helper" = none → c.applyClient p = .absent ∧ c.afterClient p = c) ∧
        ∀ members, p.get? "flow-helper" = some (.object members) →
          ((Json.object members).WellTyped →
            c.applyClient p = .accepted (c.afterClient p)) ∧
          (¬ (Json.object members).WellTyped → c.applyClient p = .refused ∧ c.afterClient p = c) ∧
          ∀ q : Json, q.get? "flow-helper" = some (onlySettings members) →
            c.applyClient q = c.applyClient p := by
  refine ⟨⟨server_foldl_afterClient config payloads,
    latest_foldl (fun p hp c => (turns_afterClient c (hobjects p hp)).1) config,
    latest_foldl (fun p hp c => (turns_afterClient c (hobjects p hp)).2) config⟩, ?_⟩
  intro p _ c
  refine ⟨fun hpart => ?_, fun members hpart => ⟨fun htyped => ?_, fun hill => ?_, fun q hq => ?_⟩⟩
  · have habsent := Config.applyClient_absent c hpart
    exact ⟨habsent, Config.afterClient_eq_self (by simp [habsent])⟩
  · have hexists : ∃ next, c.sectionSettings? (Json.object members).collapsed = some next :=
      Config.exists_sectionSettings?_iff.mpr htyped
    obtain ⟨settings, hsettings⟩ := hexists
    have haccepted := Config.applyClient_object c hpart
    rw [hsettings] at haccepted
    rw [Config.afterClient_of_accepted haccepted, haccepted, Option.elim_some]
  · have hrefused := Config.applyClient_object c hpart
    rw [Config.sectionSettings?_eq_none_iff.mpr hill] at hrefused
    exact ⟨hrefused, Config.afterClient_eq_self (by simp [hrefused])⟩
  · rw [Config.applyClient_object c hpart, Config.applyClient_object c hq]
    exact congrArg (Option.elim · _ _) (sectionSettings?_onlySettings c members)

/-- A section with settings, as a payload. -/
def settingsPayload (members : List (String × Json)) : Json :=
  .record [("flow-helper", .record members)]

/-- Payloads of which the second is refused for its quotes and the third has no settings. The first
spells the indent in two ways, and the last repeats a key. -/
def clientPayloads : List Json :=
  [settingsPayload [("indent-size", .number ⟨false, [4], [], none⟩),
      ("indentSize", .number ⟨false, [8], [], none⟩), ("quotes", .text "single")],
    settingsPayload [("indent_size", .number ⟨false, [6], [], none⟩), ("quotes", .text "backtick")],
    .record [("editor", .record [])],
    settingsPayload [("quotes", .record [("single", .null), ("single", .null)]),
      ("theme", .text "dark")]]

theorem settings_after_clientPayloads :
    (∀ p ∈ clientPayloads, InObject p) ∧
      clientPayloads.foldl Config.afterClient {} = { settings := ⟨8, .single⟩ } ∧
      Latest (Assigns IsIndent Json.indentMention?) 2 clientPayloads 8 ∧
      Latest (Assigns IsQuotes Json.quotesMention?) .double clientPayloads .single := by
  have hobjects : ∀ p ∈ clientPayloads, InObject p := by
    simp [clientPayloads, InObject, settingsPayload, Json.record, Json.get?]
  have hfinal : clientPayloads.foldl Config.afterClient {} = { settings := ⟨8, .single⟩ } := by
    decide +kernel
  obtain ⟨⟨-, hindent, hquotes⟩, -⟩ := settings_after_payloads {} clientPayloads hobjects
  rw [hfinal] at hindent hquotes
  exact ⟨hobjects, hfinal, hindent, hquotes⟩

end MarkupAssist
