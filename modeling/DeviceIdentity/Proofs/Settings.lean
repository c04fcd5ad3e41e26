import Mathlib.Data.List.Nodup
import DeviceIdentity.Proofs.Json.RoundTrip
import DeviceIdentity.Settings

/-!
# Settings documents

Members are taken one after the other, each replacing what is there by then.  That the order does
not matter, and that each setting is either what its member says or its default, holds only since no
name may be repeated.

* `shown` — what a document shows for a setting; `eq_of_shown_eq` — the settings are told apart by
  what is shown.
* `IsSetting` — the values that a member with a name may have.
* `exists_set?`, `isSetting_of_set?` — exactly such a member is taken, and it replaces its setting
  and no other.
* `exists_setAll?`, `isSetting_of_setAll?` — the same of any number of members.
* **`documents_overlay_defaults`** — settings read back from their document, and what a document
  leaves out keeps its default.
-/

namespace DeviceIdentity

namespace Settings

variable {c c' s s' : Settings} {name : String} {value : Json} {members : List (String × Json)}

/-! ## What is shown for a setting -/

/-- What a document shows for the setting called `name`. -/
def shown (settings : Settings) (name : String) : Json :=
  match name with
  | "organization" => .text settings.organization
  | "label_suffix" => .text settings.labelSuffix
  | "csr_buffer_size" => .number (.ofNat settings.csrBufferSize.toNat)
  | "cose_buffer_size" => .number (.ofNat settings.coseBufferSize.toNat)
  | "provision_timeout_ms" =>
    match settings.provisionTimeoutMs with
    | some ms => .number (.ofNat ms.toNat)
    | none => .null
  | _ => .null

lemma forall_mem_names {p : String → Prop} :
    (∀ name ∈ names, p name) ↔
      p "organization" ∧ p "label_suffix" ∧ p "csr_buffer_size" ∧ p "cose_buffer_size" ∧
        p "provision_timeout_ms" := by
  simp [names]

/-- The document of settings shows each of them. -/
lemma toJson_eq (c : Settings) :
    c.toJson = .object (names.map fun name => (name, c.shown name)) := by
  rfl

lemma number_inj {m n : UInt64}
    (h : Json.number (.ofNat m.toNat) = .number (.ofNat n.toNat)) : m = n := by
  injection h with h
  injection h with _ h
  exact UInt64.toNat_inj.1 h

/-- Settings are told apart by what is shown. -/
lemma eq_of_shown_eq (h : ∀ name ∈ names, c.shown name = c'.shown name) : c = c' := by
  obtain ⟨horganization, hsuffix, hcsr, hcose, htimeout⟩ := forall_mem_names.1 h
  obtain ⟨organization, labelSuffix, csrBufferSize, coseBufferSize, timeout⟩ := c
  obtain ⟨organization', labelSuffix', csrBufferSize', coseBufferSize', timeout'⟩ := c'
  obtain rfl : organization = organization' := Json.text.inj horganization
  obtain rfl : labelSuffix = labelSuffix' := Json.text.inj hsuffix
  obtain rfl : csrBufferSize = csrBufferSize' := number_inj hcsr
  obtain rfl : coseBufferSize = coseBufferSize' := number_inj hcose
  obtain rfl : timeout = timeout' := by
    cases timeout with
    | none =>
      cases timeout' with
      | none => rfl
      | some n => cases htimeout
    | some m =>
      cases timeout' with
      | none => cases htimeout
      | some n => rw [number_inj htimeout]
  rfl

/-! ## The values of settings -/

/-- A member called `name` may have this value. -/
inductive IsSetting : String → Json → Prop
  | organization (text : String) : IsSetting "organization" (.text text)
  | labelSuffix (text : String) : IsSetting "label_suffix" (.text text)
  | csrBufferSize (n : UInt64) : IsSetting "csr_buffer_size" (.number (.ofNat n.toNat))
  | coseBufferSize (n : UInt64) : IsSetting "cose_buffer_size" (.number (.ofNat n.toNat))
  | provisionTimeoutMs (n : UInt64) : IsSetting "provision_timeout_ms" (.number (.ofNat n.toNat))
  | noTimeout : IsSetting "provision_timeout_ms" .null

lemma IsSetting.mem_names (h : IsSetting name value) : name ∈ names := by
  cases h <;> decide

lemma IsSetting.isWritable (h : IsSetting name value) : value.IsWritable := by
  cases h with
  | organization text | labelSuffix text => exact .text text
  | csrBufferSize | coseBufferSize | provisionTimeoutMs => exact .number nofun
  | noTimeout => exact .null

lemma isSetting_shown (c : Settings) : ∀ name ∈ names, IsSetting name (c.shown name) := by
  refine forall_mem_names.2
    ⟨.organization _, .labelSuffix _, .csrBufferSize _, .coseBufferSize _, ?_⟩
  cases htimeout : c.provisionTimeoutMs with
  | none => simpa [shown, htimeout] using IsSetting.noTimeout
  | some n => simpa [shown, htimeout] using IsSetting.provisionTimeoutMs n

/-! ## Reading one value -/

lemma text?_eq_some_iff {text : String} : text? value = some text ↔ value = .text text := by
  constructor
  · intro h
    cases value with
    | text => rw [Option.some.inj h]
    | null | bool | number | array | object => cases h
  · rintro rfl
    rfl

/-- Only a number that is spelled by its digits alone is natural. -/
lemma eq_ofNat_of_natural? {number : JsonNumber} {n : Nat} (h : number.natural? = some n) :
    number = .ofNat n := by
  unfold JsonNumber.natural? at h
  split at h
  · rw [Option.some.inj h, JsonNumber.ofNat]
  · cases h

lemma word?_eq_some_iff {n : UInt64} : word? value = some n ↔ value = .number (.ofNat n.toNat) := by
  constructor
  · intro h
    cases value with
    | number number =>
      simp only [word?] at h
      split at h
      · next m hm =>
        split_ifs at h with hlt
        rw [eq_ofNat_of_natural? hm, ← Option.some.inj h, UInt64.toNat_ofNat_of_lt' hlt]
      · cases h
    | null | bool | text | array | object => cases h
  · rintro rfl
    rw [word?, JsonNumber.natural?_ofNat]
    simp only [n.toNat_lt, if_true, UInt64.ofNat_toNat]

lemma optionalWord?_number (n : UInt64) :
    optionalWord? (.number (.ofNat n.toNat)) = some (some n) := by
  rw [optionalWord?, word?_eq_some_iff.2 rfl, Option.map_some]
  exact nofun

/-! ## Taking one member -/

/-- The settings after a member was taken. -/
structure Replaces (s : Settings) (name : String) (value : Json) (s' : Settings) : Prop where
  shown_eq : s'.shown name = value
  shown_of_ne : ∀ other ∈ names, other ≠ name → s'.shown other = s.shown other

/-- A member that a setting may have is taken. -/
lemma exists_set? (h : IsSetting name value) (s : Settings) :
    ∃ s', s.set? name value = some s' ∧ Replaces s name value s' := by
  cases h with
  | organization text =>
    exact ⟨{ s with organization := text }, rfl, rfl,
      forall_mem_names.2 ⟨fun hne => (hne rfl).elim, fun _ => rfl, fun _ => rfl, fun _ => rfl,
        fun _ => rfl⟩⟩
  | labelSuffix text =>
    exact ⟨{ s with labelSuffix := text }, rfl, rfl,
      forall_mem_names.2 ⟨fun _ => rfl, fun hne => (hne rfl).elim, fun _ => rfl, fun _ => rfl,
        fun _ => rfl⟩⟩
  | csrBufferSize n =>
    refine ⟨{ s with csrBufferSize := n }, ?_, rfl,
      forall_mem_names.2 ⟨fun _ => rfl, fun _ => rfl, fun hne => (hne rfl).elim, fun _ => rfl,
        fun _ => rfl⟩⟩
    rw [set?, word?_eq_some_iff.2 rfl, Option.map_some]
  | coseBufferSize n =>
    refine ⟨{ s with coseBufferSize := n }, ?_, rfl,
      forall_mem_names.2 ⟨fun _ => rfl, fun _ => rfl, fun _ => rfl, fun hne => (hne rfl).elim,
        fun _ => rfl⟩⟩
    rw [set?, word?_eq_some_iff.2 rfl, Option.map_some]
  | provisionTimeoutMs n =>
    refine ⟨{ s with provisionTimeoutMs := some n }, ?_, rfl,
      forall_mem_names.2 ⟨fun _ => rfl, fun _ => rfl, fun _ => rfl, fun _ => rfl,
        fun hne => (hne rfl).elim⟩⟩
    rw [set?, optionalWord?_number, Option.map_some]
  | noTimeout =>
    exact ⟨{ s with provisionTimeoutMs := none }, rfl, rfl,
      forall_mem_names.2 ⟨fun _ => rfl, fun _ => rfl, fun _ => rfl, fun _ => rfl,
        fun hne => (hne rfl).elim⟩⟩

/-- No other member is taken. -/
lemma isSetting_of_set? (h : s.set? name value = some s') : IsSetting name value := by
  unfold set? at h
  split at h
  · obtain ⟨text, htext, -⟩ := Option.map_eq_some_iff.1 h
    exact text?_eq_some_iff.1 htext ▸ .organization text
  · obtain ⟨text, htext, -⟩ := Option.map_eq_some_iff.1 h
    exact text?_eq_some_iff.1 htext ▸ .labelSuffix text
  · obtain ⟨n, hn, -⟩ := Option.map_eq_some_iff.1 h
    exact word?_eq_some_iff.1 hn ▸ .csrBufferSize n
  · obtain ⟨n, hn, -⟩ := Option.map_eq_some_iff.1 h
    exact word?_eq_some_iff.1 hn ▸ .coseBufferSize n
  · obtain ⟨timeout, htimeout, -⟩ := Option.map_eq_some_iff.1 h
    unfold optionalWord? at htimeout
    split at htimeout
    · exact .noTimeout
    · obtain ⟨n, hn, -⟩ := Option.map_eq_some_iff.1 htimeout
      exact word?_eq_some_iff.1 hn ▸ .provisionTimeoutMs n
  · cases h

/-! ## Taking all members -/

/-- A setting is what the first member of its name shows, or else what it was before. -/
def Overlays (s : Settings) (members : List (String × Json)) (s' : Settings) : Prop :=
  ∀ name ∈ names, s'.shown name = (members.lookup name).getD (s.shown name)

lemma setAll?_cons (s : Settings) (name : String) (value : Json) (members : List (String × Json)) :
    s.setAll? ((name, value) :: members) =
      (s.set? name value).bind fun s₁ => s₁.setAll? members := by
  rw [setAll?, List.foldlM_cons]
  rfl

/-- Members of different names are taken if each of them is. -/
lemma exists_setAll? (hnodup : (members.map Prod.fst).Nodup)
    (h : ∀ m ∈ members, IsSetting m.1 m.2) (s : Settings) :
    ∃ s', s.setAll? members = some s' ∧ Overlays s members s' := by
  induction members generalizing s with
  | nil => exact ⟨s, rfl, fun name _ => rfl⟩
  | cons member members ih =>
    obtain ⟨first, value⟩ := member
    rw [List.map_cons, List.nodup_cons] at hnodup
    obtain ⟨s₁, hset, hreplaces⟩ := exists_set? (h (first, value) (.head _)) s
    obtain ⟨s', hrest, hoverlays⟩ := ih hnodup.2 (fun m hm => h m (.tail _ hm)) s₁
    refine ⟨s', by rw [setAll?_cons, hset, Option.bind_some, hrest], fun name hname => ?_⟩
    rw [hoverlays name hname, List.lookup_cons]
    by_cases hfirst : name = first
    · -- no later member has this name
      subst hfirst
      have hnone : members.lookup name = none := by
        rw [List.lookup_eq_none_iff]
        intro m hm
        rw [bne_iff_ne]
        exact fun heq => hnodup.1 (List.mem_map.2 ⟨m, hm, heq.symm⟩)
      rw [hnone, beq_self_eq_true]
      exact hreplaces.shown_eq
    · rw [beq_false_of_ne hfirst, hreplaces.shown_of_ne name hname hfirst]

lemma isSetting_of_setAll? (h : s.setAll? members = some s') :
    ∀ m ∈ members, IsSetting m.1 m.2 := by
  induction members generalizing s with
  | nil => exact fun m hm => nomatch hm
  | cons member members ih =>
    rw [setAll?_cons] at h
    obtain ⟨s₁, hset, hrest⟩ := Option.bind_eq_some_iff.1 h
    exact List.forall_mem_cons.2 ⟨isSetting_of_set? hset, ih hrest⟩

/-! ## Documents -/

section Document

variable {document : String} (hread : Json.parse? document = some (.object members))
include hread

lemma parse_of_members (hnodup : (members.map Prod.fst).Nodup)
    (h : ∀ m ∈ members, IsSetting m.1 m.2) :
    ∃ c, parse document = .ok c ∧ Overlays {} members c := by
  obtain ⟨c, hset, hoverlays⟩ := exists_setAll? hnodup h {}
  refine ⟨c, ?_, hoverlays⟩
  rw [parse, hread, Option.bind_some, ofJson?, if_pos hnodup, hset]

lemma parse_eq_error
    (h : ¬(members.map Prod.fst).Nodup ∨ ∃ m ∈ members, ¬IsSetting m.1 m.2) :
    parse document = .error (.serialization "not a settings document") := by
  have hnone : ofJson? (.object members) = none := by
    rw [ofJson?]
    split_ifs with hnodup
    · obtain ⟨m, hm, hsetting⟩ := h.resolve_left (not_not_intro hnodup)
      exact Option.eq_none_iff_forall_ne_some.2 fun s' hset =>
        hsetting (isSetting_of_setAll? hset m hm)
    · rfl
  rw [parse, hread, Option.bind_some, hnone]

end Document

/-! ## The main result -/

/-- Settings are read from their document. -/
lemma parse_print (c : Settings) : parse c.print = .ok c := by
  have hsetting : ∀ m ∈ names.map fun name => (name, c.shown name), IsSetting m.1 m.2 := by
    intro m hm
    obtain ⟨name, hname, rfl⟩ := List.mem_map.1 hm
    exact isSetting_shown c name hname
  have hread : Json.parse? c.print =
      some (.object (names.map fun name => (name, c.shown name))) := by
    rw [print, toJson_eq]
    exact Json.parse?_print (.object fun m hm => (hsetting m hm).isWritable)
  obtain ⟨c', hparse, hoverlays⟩ := parse_of_members hread (by simp [names]) hsetting
  have hshown : ∀ name ∈ names, c'.shown name = c.shown name := by
    intro name hname
    rw [hoverlays name hname]
    revert name
    exact forall_mem_names.2 ⟨rfl, rfl, rfl, rfl, rfl⟩
  rw [hparse, eq_of_shown_eq hshown]

/-- **Settings read back from their document, and documents overlay the defaults.**  Any settings
are read from the document that they are written as.  If the members of a document have different
names and each is a setting with a value that it may have, then whatever their order and their
number the document is read, and each setting is what its member shows, or its default without
one; such members have a document.  If a name is repeated, or some member is no setting, as one of
another name is not, then the document is refused, whatever its other members are. -/
theorem documents_overlay_defaults :
    (∀ c : Settings, parse c.print = .ok c) ∧
    (∀ members : List (String × Json), (members.map Prod.fst).Nodup →
      (∀ m ∈ members, IsSetting m.1 m.2) →
        Json.parse? (Json.object members).print = some (.object members) ∧
        ∀ document, Json.parse? document = some (.object members) →
          ∃ c, parse document = .ok c ∧
            ∀ name ∈ names,
              c.shown name = (members.lookup name).getD (({} : Settings).shown name)) ∧
    ∀ (document : String) (members : List (String × Json)),
      Json.parse? document = some (.object members) →
        ¬(members.map Prod.fst).Nodup ∨ (∃ m ∈ members, m.1 ∉ names ∨ ¬IsSetting m.1 m.2) →
          parse document = .error (.serialization "not a settings document") := by
  refine ⟨parse_print, fun members hnodup h => ⟨?_, ?_⟩, fun document members hread h => ?_⟩
  · exact Json.parse?_print (.object fun m hm => (h m hm).isWritable)
  · exact fun document hread => parse_of_members hread hnodup h
  · refine parse_eq_error hread (h.imp_right ?_)
    rintro ⟨m, hm, hname | hvalue⟩
    · exact ⟨m, hm, fun hsetting => hname hsetting.mem_names⟩
    · exact ⟨m, hm, hvalue⟩

/-- Two members in another order than the settings, with white space and an escape. -/
def twoMembers : String :=
  "\x7b \"provision_timeout_ms\" : 250,\n\"organization\":\"Ac\\u006de\" \x7d"

lemma parse?_twoMembers :
    Json.parse? twoMembers = some (.object
      [("provision_timeout_ms", .number (.ofNat 250)), ("organization", .text "Acme")]) := by
  have hscan : JsonToken.scan? twoMembers = some [.openBrace, .text "provision_timeout_ms", .colon,
      .number (.ofNat 250), .comma, .text "organization", .colon, .text "Acme", .closeBrace] := by
    decide +kernel
  rw [Json.parse?, hscan]
  rfl

/-- A member behind one that is taken, with a name that is no setting. -/
def strangeMember : String := "\x7b\"organization\":\"Acme\",\"curve\":\"p384\"\x7d"

lemma parse?_strangeMember :
    Json.parse? strangeMember = some (.object
      [("organization", .text "Acme"), ("curve", .text "p384")]) := by
  have hscan : JsonToken.scan? strangeMember = some [.openBrace, .text "organization", .colon,
      .text "Acme", .comma, .text "curve", .colon, .text "p384", .closeBrace] := by
    decide +kernel
  rw [Json.parse?, hscan]
  rfl

/-- The same member twice. -/
def repeatedMember : String := "\x7b\"label_suffix\":\"A\",\"label_suffix\":\"A\"\x7d"

lemma parse?_repeatedMember :
    Json.parse? repeatedMember = some (.object
      [("label_suffix", .text "A"), ("label_suffix", .text "A")]) := by
  have hscan : JsonToken.scan? repeatedMember = some [.openBrace, .text "label_suffix", .colon,
      .text "A", .comma, .text "label_suffix", .colon, .text "A", .closeBrace] := by
    decide +kernel
  rw [Json.parse?, hscan]
  rfl

/-- Two members are read over the defaults; a strange one and a repeated one are refused. -/
theorem documents_overlay_defaults_partial :
    parse twoMembers = .ok { organization := "Acme", provisionTimeoutMs := some 250 } ∧
      parse strangeMember = .error (.serialization "not a settings document") ∧
      parse repeatedMember = .error (.serialization "not a settings document") := by
  obtain ⟨-, hoverlay, hrefuse⟩ := documents_overlay_defaults
  refine ⟨?_, ?_, ?_⟩
  · have hsettings : ∀ m ∈ [("provision_timeout_ms", Json.number (.ofNat 250)),
        ("organization", .text "Acme")], IsSetting m.1 m.2 :=
      List.forall_mem_cons.2 ⟨.provisionTimeoutMs 250,
        List.forall_mem_cons.2 ⟨.organization "Acme", nofun⟩⟩
    obtain ⟨-, hread⟩ := hoverlay _ (by decide) hsettings
    obtain ⟨c, hparse, hshown⟩ := hread twoMembers parse?_twoMembers
    have heq : c = { organization := "Acme", provisionTimeoutMs := some 250 } := by
      refine eq_of_shown_eq fun name hname => (hshown name hname).trans ?_
      revert name
      exact forall_mem_names.2 ⟨rfl, rfl, rfl, rfl, rfl⟩
    rw [hparse, heq]
  · exact hrefuse strangeMember _ parse?_strangeMember
      (.inr ⟨_, .tail _ (.head _), .inl (by decide)⟩)
  · exact hrefuse repeatedMember _ parse?_repeatedMember (.inl (by decide))

end Settings

end DeviceIdentity
