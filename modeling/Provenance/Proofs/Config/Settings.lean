import Mathlib.Data.List.Induction
import Mathlib.Data.List.Nodup
import Provenance.Config.Reader
import Provenance.Connect
import Provenance.Proofs.Json.Grammar
import Provenance.Proofs.Json.Spelling

/-! # What a configuration text says

    A configuration is written as an object of members: settings, which are known
    fields with a value of their type, and unknown fields with any value.  The
    members of a text are read one by one, in order, into a draft
    (`Members.advance_opened`), which stands for the default configuration with the
    settings read so far in place of its own (`Draft.config_fill`).

    So the settings of a text are all that counts (`reads_objects`): not their order,
    not the unknown fields, not the blanks.  A field that has a value already is
    refused at its key, before its second value is looked at. -/

namespace Provenance.Config

open Provenance.Json

/-! ## Settings -/

/-- A field with a value of its type. -/
inductive Setting where
  | capacity (n : Nat)
  | growth (g : Growth)
  | file (path : Option String)
  | placeholder (name : String)
  | overhead (record : Bool)
deriving DecidableEq

/-- The field that is set. -/
def Setting.field : Setting → Field
  | capacity _ => .capacity
  | growth _ => .growth
  | file _ => .file
  | placeholder _ => .placeholder
  | overhead _ => .overhead

/-- The tokens of the value of a setting.  A policy is written as its name, or as an
    object with that name as its key and null as its value. -/
inductive Setting.IsWritten : Setting → List Json.Token → Prop
  | capacity {ds : List Nat} (h : digitsValue ds ≤ Word.limit) :
      IsWritten (.capacity (digitsValue ds)) [.number ⟨false, ds, none, none⟩]
  | policy (g : Growth) : IsWritten (.growth g) [.text g.name]
  | policyObject (g : Growth) :
      IsWritten (.growth g) [.openObject, .text g.name, .colon, .null, .closeObject]
  | noFile : IsWritten (.file none) [.null]
  | file (path : String) : IsWritten (.file (some path)) [.text path]
  | placeholder (name : String) : IsWritten (.placeholder name) [.text name]
  | overhead (record : Bool) : IsWritten (.overhead record) [.boolean record]

/-- A configuration with a setting in place of its own. -/
def override (config : Config) : Setting → Config
  | .capacity n => { config with statsCapacity := n }
  | .growth g => { config with statsGrowth := g }
  | .file path => { config with statFile := path }
  | .placeholder name => { config with placeholderName := name }
  | .overhead record => { config with recordOverhead := record }

/-- Settings of two fields may be applied in either order. -/
theorem override_comm {s s' : Setting} (h : s.field ≠ s'.field) (config : Config) :
    (config.override s).override s' = (config.override s').override s := by
  cases s <;> cases s' <;> first | rfl | exact absurd rfl h

/-- Settings of distinct fields may be applied in any order. -/
theorem foldl_override_perm {ss ss' : List Setting} (h : (ss.map Setting.field).Nodup)
    (hperm : ss.Perm ss') (config : Config) :
    ss.foldl override config = ss'.foldl override config := by
  refine hperm.foldl_eq' ?_ config
  intro s hs s' hs' config
  by_cases hsame : s = s'
  · rw [hsame]
  · have hfield : s.field ≠ s'.field :=
      fun heq => hsame (List.inj_on_of_nodup_map h hs hs' heq)
    exact (override_comm hfield config)

/-! ## Drafts -/

namespace Draft

/-- A draft with one more setting. -/
def fill (d : Draft) : Setting → Draft
  | .capacity n => { d with capacity := some n }
  | .growth g => { d with growth := some g }
  | .file path => { d with file := some path }
  | .placeholder name => { d with placeholder := some name }
  | .overhead record => { d with overhead := some record }

theorem config_fill (d : Draft) (s : Setting) :
    (d.fill s).config = d.config.override s := by
  cases s <;> rfl

theorem config_foldl_fill (ss : List Setting) (d : Draft) :
    (ss.foldl fill d).config = ss.foldl override d.config := by
  induction ss generalizing d with
  | nil => rfl
  | cons s ss ih => rw [List.foldl_cons, ih, config_fill, List.foldl_cons]

theorem has_fill (d : Draft) (s : Setting) (f : Field) :
    (d.fill s).has f = (decide (f = s.field) || d.has f) := by
  cases s <;> cases f <;> rfl

theorem has_foldl_fill (ss : List Setting) (d : Draft) (f : Field) :
    (ss.foldl fill d).has f = true ↔ f ∈ ss.map Setting.field ∨ d.has f = true := by
  induction ss generalizing d with
  | nil => simp
  | cons s ss ih =>
      rw [List.foldl_cons, ih, has_fill, List.map_cons, List.mem_cons, Bool.or_eq_true,
        decide_eq_true_eq]
      tauto

/-- The settings are of fields that the draft has no value of, and no two are of one
    field. -/
structure Lacks (d : Draft) (ss : List Setting) : Prop where
  open_ : ∀ f ∈ ss.map Setting.field, d.has f = false
  nodup : (ss.map Setting.field).Nodup

theorem Lacks.of_cons {d : Draft} {s : Setting} {ss : List Setting}
    (h : d.Lacks (s :: ss)) : d.has s.field = false ∧ (d.fill s).Lacks ss := by
  obtain ⟨hs, hss⟩ := List.nodup_cons.mp h.nodup
  refine ⟨h.open_ _ List.mem_cons_self, ⟨?_, hss⟩⟩
  intro f hf
  have hne : f ≠ s.field := fun heq => hs (heq ▸ hf)
  rw [has_fill, decide_eq_false hne, Bool.false_or]
  exact h.open_ f (List.mem_cons_of_mem _ hf)

theorem Lacks.empty {ss : List Setting} (h : (ss.map Setting.field).Nodup) :
    empty.Lacks ss :=
  ⟨fun f _ => by cases f <;> rfl, h⟩

end Draft

/-! ## Members -/

/-- A member of the object of a configuration.  An unknown field may have any name that
    is a text and any value. -/
inductive Member where
  | known (s : Setting) (value : List Json.Token) (h : s.IsWritten value)
  | unknown (name : String) (value : List Json.Token)
      (hname : ∀ f : Field, f.name ≠ name) (h : IsValue value)

/-- The tokens of a member. -/
def Member.tokens : Member → List Json.Token
  | known s value _ => .text s.field.name :: .colon :: value
  | unknown name value _ _ => .text name :: .colon :: value

/-- The setting that a member is, if its field is known. -/
def Member.settings : Member → List Setting
  | known s _ _ => [s]
  | unknown .. => []

namespace Members

/-- The members after others, each with a comma before it. -/
def following (ms : List Member) : List Json.Token :=
  ms.flatMap fun m => .comma :: m.tokens

/-- An object with these members that is still open. -/
def opened : List Member → List Json.Token
  | [] => [.openObject]
  | m :: ms => .openObject :: (m.tokens ++ following ms)

/-- An object with these members. -/
def object (ms : List Member) : List Json.Token := opened ms ++ [.closeObject]

/-- The settings among the members, in order. -/
def settings (ms : List Member) : List Setting := ms.flatMap Member.settings

/-- The known fields among the members, in order. -/
def fields (ms : List Member) : List Field := (settings ms).map Setting.field

/-- The default configuration with the given settings in place of its own. -/
def config (ms : List Member) : Config := (settings ms).foldl override default

end Members

/-! ## The value of a field -/

theorem le_foldl_digits (ds : List Nat) (n : Nat) :
    n ≤ ds.foldl (fun n d => n * 10 + d) n := by
  induction ds generalizing n with
  | nil => exact Nat.le_refl n
  | cons d ds ih =>
      have hd : n ≤ n * 10 + d := by omega
      exact Nat.le_trans hd (ih (n * 10 + d))

/-- Digits that fit a word are gathered without a remainder. -/
theorem whole_eq {ds : List Nat} {n : Nat}
    (h : ds.foldl (fun n d => n * 10 + d) n ≤ Word.limit) :
    Gathered.whole ⟨n, 0⟩ ds = ⟨ds.foldl (fun n d => n * 10 + d) n, 0⟩ := by
  induction ds generalizing n with
  | nil => rfl
  | cons d ds ih =>
      have hfits : n * 10 + d ≤ Word.limit := Nat.le_trans (le_foldl_digits ds _) h
      rw [Gathered.whole, if_pos hfits]
      exact ih h

theorem word_eq {ds : List Nat} (h : digitsValue ds ≤ Word.limit) (expected : String) :
    Json.Token.word (.number ⟨false, ds, none, none⟩) expected = .ok (digitsValue ds) := by
  have hvalue : NumberText.value ⟨false, ds, none, none⟩ = .ok (.word (digitsValue ds)) := by
    show wholeValue false (Gathered.whole ⟨0, 0⟩ ds) = _
    rw [whole_eq h]
    rfl
  rw [Json.Token.word, hvalue]

theorem Field.ofName?_name (f : Field) : ofName? f.name = some f := by
  cases f <;> rfl

theorem Field.ofName?_eq_none {name : String} (h : ∀ f : Field, f.name ≠ name) :
    ofName? name = none := by
  rw [ofName?, List.find?_eq_none]
  intro f _ heq
  exact h f (beq_iff_eq.mp heq)

/-- The value of a setting is read as that setting. -/
theorem Setting.IsWritten.advance {s : Setting} {value : List Json.Token}
    (h : s.IsWritten value) (d : Draft) :
    reader.advance (.more ⟨.value s.field, d⟩) value = .ok (.more ⟨.nextKey, d.fill s⟩) := by
  cases h with
  | @capacity ds h =>
      have hstep : reader.step ⟨.value .capacity, d⟩ (.number ⟨false, ds, none, none⟩)
          = .ok (.more ⟨.nextKey, d.fill (.capacity (digitsValue ds))⟩) := by
        show Reading.value d .member .capacity (.number ⟨false, ds, none, none⟩) = _
        rw [Reading.value, word_eq h]
        rfl
      show reader.advance (.more ⟨.value .capacity, d⟩) _ = _
      rw [Reader.advance, hstep]
      rfl
  | policy g => cases g <;> rfl
  | policyObject g => cases g <;> rfl
  | noFile => rfl
  | file path => rfl
  | placeholder name => rfl
  | overhead record => rfl

/-! ## Reading the members -/

/-- The key of a known field is refused if the field has a value already. -/
theorem step_key (d : Draft) (f : Field) :
    reader.step ⟨.key, d⟩ (.text f.name)
      = if d.has f then .error (.mismatch (.duplicateField f.name))
        else .ok (.more ⟨.colon (some f), d⟩) := by
  show Reading.key d (.text f.name) = _
  rw [Reading.key, Field.ofName?_name]
  rfl

/-- A known field without a value is read with its value. -/
theorem advance_known {d : Draft} {s : Setting} {value : List Json.Token}
    (h : s.IsWritten value) (hd : d.has s.field = false) (rest : List Json.Token) :
    reader.advance (.more ⟨.key, d⟩) (.text s.field.name :: .colon :: (value ++ rest))
      = reader.advance (.more ⟨.nextKey, d.fill s⟩) rest := by
  have hopen : ¬d.has s.field = true := by
    rw [hd]
    decide
  rw [Reader.advance, step_key, if_neg hopen]
  exact reader.advance_append (h.advance d) rest

/-- What the reader has where its skipping has come so far. -/
def skipped (d : Draft) : Progress Skip Unit → Progress Reading Draft
  | .more s => .more ⟨.skipping s, d⟩
  | .done () => .more ⟨.nextKey, d⟩

theorem advance_skipping {s : Skip} {p : Progress Skip Unit} {ts : List Json.Token}
    (h : Skip.reader.advance (.more s) ts = .ok p) (d : Draft) :
    reader.advance (.more ⟨.skipping s, d⟩) ts = .ok (skipped d p) := by
  induction ts generalizing s with
  | nil =>
      cases h
      rfl
  | cons t ts ih =>
      have hstep : reader.step ⟨.skipping s, d⟩ t = (s.step t).map (skipped d) := by
        show Reading.step ⟨.skipping s, d⟩ t = _
        unfold Reading.step
        dsimp only
        cases s.step t with
        | error e => rfl
        | ok q => cases q <;> rfl
      have hskip : Skip.reader.step s t = s.step t := rfl
      rw [Reader.advance, hskip] at h
      rw [Reader.advance, hstep]
      cases hs : s.step t with
      | error e =>
          rw [hs] at h
          cases h
      | ok q =>
          rw [hs] at h
          cases q with
          | more s' => exact ih h
          | done u =>
              -- nothing may follow a value that is complete
              cases ts with
              | nil =>
                  cases h
                  rfl
              | cons t' ts => cases h

/-- An unknown field is read with its value, and leaves the draft as it is. -/
theorem advance_unknown {name : String} {value : List Json.Token}
    (hname : ∀ f : Field, f.name ≠ name) (h : IsValue value) (d : Draft)
    (rest : List Json.Token) :
    reader.advance (.more ⟨.key, d⟩) (.text name :: .colon :: (value ++ rest))
      = reader.advance (.more ⟨.nextKey, d⟩) rest := by
  have hkey : reader.step ⟨.key, d⟩ (.text name) = .ok (.more ⟨.colon none, d⟩) := by
    show Reading.key d (.text name) = _
    rw [Reading.key, Field.ofName?_eq_none hname]
    rfl
  rw [Reader.advance, hkey]
  exact reader.advance_append (advance_skipping (h.skips []) d) rest

namespace Members

/-- Members are read one after the other, in order. -/
theorem advance_following {ms : List Member} {d : Draft} (h : d.Lacks (settings ms)) :
    reader.advance (.more ⟨.nextKey, d⟩) (following ms)
      = .ok (.more ⟨.nextKey, (settings ms).foldl Draft.fill d⟩) := by
  induction ms generalizing d with
  | nil => rfl
  | cons m ms ih =>
      cases m with
      | known s value hs =>
          obtain ⟨hd, hrest⟩ := Draft.Lacks.of_cons h
          exact (advance_known hs hd _).trans (ih hrest)
      | unknown name value hname hvalue =>
          exact (advance_unknown hname hvalue d _).trans (ih h)

/-- The members of an object that is still open are read up to the last. -/
theorem advance_opened {ms : List Member} (hne : ms ≠ []) (h : (fields ms).Nodup) :
    reader.advance (.more reader.start) (opened ms)
      = .ok (.more ⟨.nextKey, (settings ms).foldl Draft.fill .empty⟩) := by
  cases ms with
  | nil => exact absurd rfl hne
  | cons m ms =>
      have hkey : reader.advance (.more ⟨.key, .empty⟩) (m.tokens ++ following ms)
          = .ok (.more ⟨.nextKey, (settings (m :: ms)).foldl Draft.fill .empty⟩) :=
        advance_following (Draft.Lacks.empty h)
      show reader.advance (.more ⟨.firstKey, .empty⟩) (m.tokens ++ following ms) = _
      refine reader.advance_of_step ?_ ?_ hkey
      · intro t p ht
        cases t <;> first | exact ht | cases ht
      · cases m <;> exact List.cons_ne_nil _ _

/-- An object whose known fields differ is read as its settings. -/
theorem read_object {ms : List Member} (h : (fields ms).Nodup) :
    reader.read (object ms) = .ok ((settings ms).foldl Draft.fill .empty) := by
  cases ms with
  | nil => rfl
  | cons m ms =>
      rw [Reader.read, object, reader.run_append,
        advance_opened (List.cons_ne_nil m ms) h]
      rfl

/-- The key of a field that has a value already ends the reading, whatever comes
    after it. -/
theorem read_repeated {ms : List Member} (h : (fields ms).Nodup) {f : Field}
    (hf : f ∈ fields ms) (rest : List Json.Token) :
    reader.read (opened ms ++ .comma :: .text f.name :: rest)
      = .error (.mismatch (.duplicateField f.name)) := by
  have hne : ms ≠ [] := by
    rintro rfl
    cases hf
  have hhas : ((settings ms).foldl Draft.fill .empty).has f = true :=
    (Draft.has_foldl_fill _ _ f).mpr (.inl hf)
  rw [Reader.read, reader.run_append, advance_opened hne h]
  show reader.run (.more ⟨.key, (settings ms).foldl Draft.fill .empty⟩)
    (.text f.name :: rest) = _
  rw [Reader.run, step_key, if_pos hhas]

theorem settings_append (ms ms' : List Member) :
    settings (ms ++ ms') = settings ms ++ settings ms' :=
  List.flatMap_append

theorem fields_append (ms ms' : List Member) :
    fields (ms ++ ms') = fields ms ++ fields ms' := by
  rw [fields, settings_append, List.map_append, fields, fields]

/-- Among members with a field twice, one is the first to repeat a field. -/
theorem exists_repeated {ms : List Member} (h : ¬(fields ms).Nodup) :
    ∃ front s value hs back, ms = front ++ .known s value hs :: back
      ∧ (fields front).Nodup ∧ s.field ∈ fields front := by
  induction ms using List.reverseRecOn with
  | nil => exact absurd List.nodup_nil h
  | append_singleton ms m ih =>
      by_cases hms : (fields ms).Nodup
      · cases m with
        | unknown name value hname hvalue =>
            rw [fields_append] at h
            exact absurd (by simpa [fields, settings, Member.settings] using hms) h
        | known s value hs =>
            refine ⟨ms, s, value, hs, [], rfl, hms, ?_⟩
            by_contra hnew
            refine h ?_
            rw [fields_append]
            refine List.nodup_append.mpr ⟨hms, List.nodup_singleton s.field, ?_⟩
            rintro f hf f' hf' rfl
            have hfield : f = s.field := List.mem_singleton.mp hf'
            exact hnew (hfield ▸ hf)
      · obtain ⟨front, s, value, hs, back, rfl, hfront, hmem⟩ := ih hms
        exact ⟨front, s, value, hs, back ++ [m], by simp, hfront, hmem⟩

/-- The tokens of an object, cut after some of its members. -/
theorem object_append {front : List Member} (hne : front ≠ []) (m : Member)
    (back : List Member) :
    object (front ++ m :: back)
      = opened front ++ .comma :: (m.tokens ++ (following back ++ [.closeObject])) := by
  cases front with
  | nil => exact absurd rfl hne
  | cons m' front => simp [object, opened, following]

end Members

/-! ## Configuration texts -/

/-- The text is an object with these members.  Blanks may stand between its tokens,
    and each text in it may be written with escapes. -/
def IsObjectText (text : String) (ms : List Member) : Prop :=
  Spells text.toList (Members.object ms) []

theorem IsObjectText.tokens_eq {text : String} {ms : List Member}
    (h : IsObjectText text ms) : Json.tokens text = Members.object ms := by
  have htokens := Spells.tokensOf_eq h
  rw [tokensOf, List.append_nil] at htokens
  exact htokens

theorem ofJson_of_problem {text : String} {problem : Problem}
    (h : reader.read (Json.tokens text) = .error problem) :
    ofJson text = .error (.json problem) := by
  rw [ofJson, h]

/-- A text whose known fields differ is read as its settings, which are then
    validated. -/
theorem ofJson_of_isObjectText {text : String} {ms : List Member}
    (h : IsObjectText text ms) (hnodup : (Members.fields ms).Nodup) :
    ofJson text = (Members.config ms).validate := by
  have hconfig : ((Members.settings ms).foldl Draft.fill .empty).config
      = Members.config ms := Draft.config_foldl_fill _ _
  rw [ofJson, h.tokens_eq, Members.read_object hnodup]
  dsimp only
  rw [hconfig]

theorem config_perm {ms ms' : List Member} (h : (Members.fields ms).Nodup)
    (hperm : (Members.settings ms).Perm (Members.settings ms')) :
    (Members.fields ms').Nodup ∧ Members.config ms = Members.config ms' :=
  ⟨(hperm.map Setting.field).nodup_iff.mp h, foldl_override_perm h hperm default⟩

/-- The key of a field that has a value already is a problem of the text, whatever
    characters come after it. -/
theorem ofJson_of_repeatedKey {text : String} {ms : List Member}
    (hnodup : (Members.fields ms).Nodup) {f : Field} (hf : f ∈ Members.fields ms)
    {rest : List Char}
    (h : Spells text.toList (Members.opened ms ++ [.comma, .text f.name]) rest) :
    ofJson text = .error (.json (.mismatch (.duplicateField f.name))) := by
  have htokens : Json.tokens text
      = Members.opened ms ++ .comma :: .text f.name :: tokensOf rest := by
    have hall := h.tokensOf_eq
    rw [List.append_assoc] at hall
    exact hall
  refine ofJson_of_problem ?_
  rw [htokens]
  exact Members.read_repeated hnodup hf _

theorem ofJson_of_repeated {text : String} {ms : List Member} (h : IsObjectText text ms)
    (hrepeated : ¬(Members.fields ms).Nodup) :
    ∃ f : Field, 1 < (Members.fields ms).count f
      ∧ ofJson text = .error (.json (.mismatch (.duplicateField f.name))) := by
  obtain ⟨front, s, value, hs, back, rfl, hnodup, hmem⟩ := Members.exists_repeated hrepeated
  have hne : front ≠ [] := by
    rintro rfl
    cases hmem
  refine ⟨s.field, ?_, ?_⟩
  · have hfront := List.count_pos_iff.mpr hmem
    rw [Members.fields_append, List.count_append]
    show 1 < _ + List.count s.field (s.field :: Members.fields back)
    rw [List.count_cons_self]
    omega
  · refine ofJson_of_problem ?_
    rw [h.tokens_eq, Members.object_append hne]
    exact Members.read_repeated hnodup hmem _

/-! ## Settings that can be used -/

/-- A configuration that was read can be used. -/
theorem invalid?_of_ofJson {text : String} {config : Config}
    (h : ofJson text = .ok config) : config.invalid? = none := by
  rw [ofJson] at h
  split at h
  · rename_i draft _
    rw [validate] at h
    split at h
    · cases h
    · rename_i hvalid
      cases h
      exact hvalid
  · cases h

/-- A table with some slots is made if there is memory for them. -/
theorem ofConfig_of_pos {config : Config} (h : 0 < config.statsCapacity)
    (memory : Memory) :
    StatsTable.ofConfig memory config
      = if memory.grants .statsSlots (config.statsCapacity * StatsTable.slotBytes) then
          .ok ⟨Array.replicate config.statsCapacity none, 0, config.statsGrowth⟩
        else .error (.outOfMemory Purpose.statsSlots.text) := by
  rw [StatsTable.ofConfig, StatsTable.ofCapacity, if_neg (Nat.ne_of_gt h),
    StatsTable.emptySlots]
  split <;> rfl

/-- Connecting under settings that can be used takes memory for the table, and
    nothing else that may fail. -/
theorem connect_of_usable {ω τ : Type} {config : Config} (h : config.invalid? = none)
    (memory : Memory) (world : ω) :
    (∃ i : Interceptor ω τ, connect memory world config = .ok i)
      ∨ memory.grants .statsSlots (config.statsCapacity * StatsTable.slotBytes) = false
        ∧ (connect memory world config : Except Error (Interceptor ω τ))
          = .error (.outOfMemory Purpose.statsSlots.text) := by
  have hpos : 0 < config.statsCapacity := (invalid?_eq_none_iff.mp h).1
  rw [connect, validate, h]
  dsimp only
  rw [Interceptor.ofConfig, ofConfig_of_pos hpos]
  cases memory.grants .statsSlots (config.statsCapacity * StatsTable.slotBytes) with
  | true => exact .inl ⟨_, rfl⟩
  | false => exact .inr ⟨rfl, rfl⟩

/-! ## What reading does -/

/-- Configuration texts are read for their settings. -/
structure ReadsSettings : Prop where
  /-- An object whose known fields differ comes to the default configuration with its
      settings in place of the default ones, if that can be used.  The capacity is
      looked at before the name. -/
  settings : ∀ {text : String} {ms : List Member}, IsObjectText text ms →
    (Members.fields ms).Nodup →
    ofJson text
      = if (Members.config ms).statsCapacity = 0 then
          .error (.configuration "stats_capacity must be greater than zero")
        else if (Members.config ms).placeholderName = "" then
          .error (.configuration "placeholder_container_name must not be empty")
        else .ok (Members.config ms)
  /-- Texts with the same settings in any order are read alike, whatever their unknown
      fields are and wherever they stand. -/
  unordered : ∀ {text text' : String} {ms ms' : List Member}, IsObjectText text ms →
    IsObjectText text' ms' → (Members.fields ms).Nodup →
    (Members.settings ms).Perm (Members.settings ms') → ofJson text = ofJson text'
  /-- An object with a known field twice is refused for such a field. -/
  repeated : ∀ {text : String} {ms : List Member}, IsObjectText text ms →
    ¬(Members.fields ms).Nodup →
    ∃ f : Field, 1 < (Members.fields ms).count f
      ∧ ofJson text = .error (.json (.mismatch (.duplicateField f.name)))
  /-- It is refused at the second key of the field: what follows may be anything. -/
  repeatedKey : ∀ {text : String} {ms : List Member}, (Members.fields ms).Nodup →
    ∀ {f : Field}, f ∈ Members.fields ms → ∀ {rest : List Char},
    Spells text.toList (Members.opened ms ++ [.comma, .text f.name]) rest →
    ofJson text = .error (.json (.mismatch (.duplicateField f.name)))
  /-- A configuration read from any text has a table of statistics, and connects, if
      there is memory for the table. -/
  usable : ∀ {text : String} {config : Config}, ofJson text = .ok config →
    ∀ memory : Memory,
      StatsTable.ofConfig memory config ≠ .error .zeroCapacity
      ∧ ∀ {ω τ : Type} (world : ω),
          (∃ i : Interceptor ω τ, connect memory world config = .ok i)
          ∨ memory.grants .statsSlots (config.statsCapacity * StatsTable.slotBytes) = false
            ∧ (connect memory world config : Except Error (Interceptor ω τ))
              = .error (.outOfMemory Purpose.statsSlots.text)

/-- Reading a configuration text is a matter of its settings. -/
theorem reads_settings : ReadsSettings where
  settings := by
    intro text ms h hnodup
    rw [ofJson_of_isObjectText h hnodup, validate, invalid?]
    by_cases hcapacity : (Members.config ms).statsCapacity = 0
    · rw [if_pos hcapacity, if_pos hcapacity]
      rfl
    rw [if_neg hcapacity, if_neg hcapacity]
    by_cases hname : (Members.config ms).placeholderName = ""
    · rw [if_pos hname, if_pos hname]
      rfl
    · rw [if_neg hname, if_neg hname]
  unordered := by
    intro text text' ms ms' h h' hnodup hperm
    obtain ⟨hnodup', hconfig⟩ := config_perm hnodup hperm
    rw [ofJson_of_isObjectText h hnodup, ofJson_of_isObjectText h' hnodup', hconfig]
  repeated := ofJson_of_repeated
  repeatedKey := ofJson_of_repeatedKey
  usable := by
    intro text config h memory
    have husable := invalid?_of_ofJson h
    refine ⟨?_, connect_of_usable husable memory⟩
    rw [ofConfig_of_pos (invalid?_eq_none_iff.mp husable).1]
    split
    · intro heq
      cases heq
    · intro heq
      cases heq

/-- The number one. -/
def one : NumberText := ⟨false, [1], none, none⟩

/-- An unknown field with a list in it, then a policy as an object. -/
def mixed : List Member :=
  [.unknown "x" [.openArray, .number one, .comma, .openObject,
      .closeObject, .closeArray] (fun f => by cases f <;> decide)
      (.list (.cons (.scalar (.number _)) (.last .emptyObject))),
    .known (.growth .double) [.openObject, .text "double", .colon, .null, .closeObject]
      (.policyObject .double)]

/-- The same policy by its name. -/
def plain : List Member := [.known (.growth .double) [.text "double"] (.policy .double)]

/-- A text of `mixed`. -/
def mixedText : String :=
  " \x7b\"x\": [1,\x7b\x7d],\"stats_growth\":\x7b\"double\":null\x7d\x7d"

theorem isObjectText_mixed : IsObjectText mixedText mixed := by
  have hdigits : AreDigits [1] := ⟨by decide, by decide⟩
  have hone := UnsignedSpelling.mk (n := one) hdigits (by decide) .none .none
  have hblank : isBlank ' ' = true := by decide
  have hx := TokenSpelling.text_of_isPlain ['x'] (by decide)
  have hgrowth := TokenSpelling.text_of_isPlain "stats_growth".toList (by decide)
  have hdouble := TokenSpelling.text_of_isPlain "double".toList (by decide)
  have hspelled :=
    Spells.blank hblank
      (.token .openObject trivial (.token hx trivial (.token .colon trivial
      (.blank hblank
      (.token .openArray trivial (.token (.natural rfl hone)
        (by intro c hc; cases hc; decide)
      (.token .comma trivial (.token .openObject trivial (.token .closeObject trivial
      (.token .closeArray trivial (.token .comma trivial
      (.token hgrowth trivial (.token .colon trivial (.token .openObject trivial
      (.token hdouble trivial (.token .colon trivial (.token .null trivial
      (.token .closeObject trivial
      (.token .closeObject trivial (.done []))))))))))))))))))))
  exact hspelled

/-- A text of `plain`. -/
def plainText : String := "\x7b\"stats_growth\":\"double\"\x7d"

theorem isObjectText_plain : IsObjectText plainText plain := by
  have hgrowth := TokenSpelling.text_of_isPlain "stats_growth".toList (by decide)
  have hdouble := TokenSpelling.text_of_isPlain "double".toList (by decide)
  have hspelled := Spells.token .openObject trivial (.token hgrowth trivial
    (.token .colon trivial (.token hdouble trivial
    (.token .closeObject trivial (.done [])))))
  exact hspelled

/-- A text that goes on after `plain` with its field once more. -/
def repeatingText : String := "\x7b\"stats_growth\":\"double\",\"stats_growth\"?"

theorem spells_repeating :
    Spells repeatingText.toList
      (Members.opened plain ++ [.comma, .text Field.growth.name]) ['?'] := by
  have hgrowth := TokenSpelling.text_of_isPlain "stats_growth".toList (by decide)
  have hdouble := TokenSpelling.text_of_isPlain "double".toList (by decide)
  have hspelled := Spells.token .openObject trivial (.token hgrowth trivial
    (.token .colon trivial (.token hdouble trivial
    (.token .comma trivial (.token hgrowth trivial (.done ['?']))))))
  exact hspelled

/-- Two spellings of one policy are read alike, and its repetition is refused. -/
theorem reads_settings_of_policy :
    ofJson mixedText = .ok { default with statsGrowth := .double }
      ∧ ofJson mixedText = ofJson plainText
      ∧ ofJson repeatingText = .error (.json (.mismatch (.duplicateField "stats_growth")))
      ∧ StatsTable.ofConfig Memory.addressSpace { default with statsGrowth := .double }
        ≠ .error .zeroCapacity := by
  have hmixed : (Members.fields mixed).Nodup := by decide
  have hplain : (Members.fields plain).Nodup := by decide
  have hread : ofJson mixedText = .ok { default with statsGrowth := .double } :=
    reads_settings.settings isObjectText_mixed hmixed
  refine ⟨hread, ?_, ?_, ?_⟩
  · exact reads_settings.unordered isObjectText_mixed isObjectText_plain hmixed (.refl _)
  · exact reads_settings.repeatedKey hplain List.mem_cons_self spells_repeating
  · exact (reads_settings.usable hread Memory.addressSpace).1

end Provenance.Config
