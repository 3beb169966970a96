import Sniff4Hound.Library.JsonRoundTrip
import Sniff4Hound.Runtime.InterfaceSelection

/-!
# What a failed choice of interfaces leaves behind

A restart that fails is rolled back. A step of the persistence that fails is not: it leaves the new
selection in the sniffer, with nothing that says so, and the second one leaves the first entry of
the new configuration behind. `selection_kept_iff` says when the call keeps what it should.
-/

namespace Sniff4Hound.Interfaces

/-! ## Stored selections -/

section Stored

variable {φ : Type} {codec : Json.Codec φ}

theorem items_names {names : List String} (hSome : names ≠ []) (fuel : Nat)
    (hFuel : 2 * ([',', ' '].intercalate (names.map Json.writeString)).length + 1 < fuel)
    (rest : List Char) :
    Json.items codec fuel ([',', ' '].intercalate (names.map Json.writeString) ++ ']' :: rest) =
      some (names.map .str, rest) := by
  induction names generalizing fuel with
  | nil => exact absurd rfl hSome
  | cons name more ih =>
    cases fuel with
    | zero => omega
    | succ fuel =>
      cases more with
      | nil =>
        rw [List.map_singleton, List.intercalate_singleton] at hFuel ⊢
        have hSkip : Json.skip (']' :: rest) = ']' :: rest := rfl
        rw [Json.items, Json.value_writeString (by omega)]
        simp only [Option.bind_eq_bind, Option.bind_some, hSkip, if_true, List.map_singleton]
      | cons next more =>
        have hNext : next :: more ≠ [] := List.cons_ne_nil _ _
        have hMap : (next :: more).map Json.writeString ≠ [] := List.cons_ne_nil _ _
        rw [List.map_cons, List.intercalate_cons_of_ne_nil hMap] at hFuel ⊢
        rw [List.length_append, List.length_append] at hFuel
        rw [List.length_cons, List.length_cons, List.length_nil] at hFuel
        have hRest := ih hNext fuel (by omega)
        obtain ⟨tail, hTail⟩ : ∃ tail, [',', ' '].intercalate
            ((next :: more).map Json.writeString) ++ ']' :: rest = '"' :: tail := by
          rw [List.map_cons, Json.writeString]
          cases more with
          | nil => exact ⟨_, rfl⟩
          | cons last more => exact ⟨_, rfl⟩
        rw [List.append_assoc, List.append_assoc, Json.items,
          Json.value_writeString (by omega)]
        rw [hTail] at hRest ⊢
        have hSkip : Json.skip (',' :: ' ' :: '"' :: tail) = ',' :: ' ' :: '"' :: tail := rfl
        have hSkip' : Json.skip (' ' :: '"' :: tail) = '"' :: tail := rfl
        simp only [Option.bind_eq_bind, Option.bind_some, List.cons_append, List.nil_append,
          hSkip, hSkip', hRest, if_true, List.map_cons]
        rfl

theorem loads_dumpNames (names : List String) :
    Json.loads codec (dumpNames names) = some (.list (names.map .str)) := by
  have hSkip (text : List Char) : Json.skip ('[' :: text) = '[' :: text := rfl
  rw [Json.loads, dumpNames, String.toList_ofList, hSkip]
  cases names with
  | nil => rfl
  | cons name rest =>
    obtain ⟨tail, hTail⟩ : ∃ tail, [',', ' '].intercalate
        ((name :: rest).map Json.writeString) ++ [']'] = '"' :: tail := by
      rw [List.map_cons, Json.writeString]
      cases rest with
      | nil => exact ⟨_, rfl⟩
      | cons next rest => exact ⟨_, rfl⟩
    have hLength := congrArg List.length hTail
    rw [List.length_append, List.length_singleton, List.length_cons] at hLength
    have hItems := @items_names φ codec _ (List.cons_ne_nil name rest)
      (2 * ('[' :: '"' :: tail).length) (by simp only [List.length_cons]; omega) []
    rw [hTail] at hItems ⊢
    have hSkip' : Json.skip ('"' :: tail) = '"' :: tail := rfl
    simp only [Json.value, hSkip', hItems]
    rfl

end Stored

/-! ## Normalisation -/

theorem insert_names {acc : Selection} {name : String} (hStrip : strip name = name)
    (hSome : name ≠ "") (hNew : name ∉ acc.names) :
    (acc.insert name).names = acc.names ++ [name] := by
  rw [Selection.insert, dif_neg (by rw [hStrip, not_or]; exact ⟨hSome, hNew⟩)]
  exact congrArg (fun name => acc.names ++ [name]) hStrip

theorem foldl_insert {names : List String} {acc : Selection}
    (hDistinct : (acc.names ++ names).Nodup)
    (hSettled : ∀ name ∈ names, strip name = name ∧ name ≠ "") :
    (names.foldl Selection.insert acc).names = acc.names ++ names := by
  induction names generalizing acc with
  | nil => rw [List.append_nil, List.foldl_nil]
  | cons name rest ih =>
    obtain ⟨hStrip, hSome⟩ := hSettled name List.mem_cons_self
    have hNew : name ∉ acc.names := fun hMem =>
      (List.nodup_append.mp hDistinct).2.2 name hMem name List.mem_cons_self rfl
    have hInsert := insert_names hStrip hSome hNew
    rw [List.foldl_cons, ih, hInsert, List.append_assoc, List.singleton_append]
    · rwa [hInsert, List.append_assoc, List.singleton_append]
    · exact fun other hOther => hSettled other (List.mem_cons_of_mem _ hOther)

theorem normalize_names (rt : Runtime) (s : Selection) :
    normalize_interface_selection rt (.list (s.names.map .str)) = s := by
  have hTexts : (s.names.map Value.str).map (Value.text rt) = s.names := by
    rw [List.map_map]
    exact (List.map_congr_left fun name _ => text_str rt name).trans (List.map_id _)
  apply Selection.ext
  show (((s.names.map Value.str).map (Value.text rt)).foldl Selection.insert .empty).names = s.names
  rw [hTexts, foldl_insert (by exact s.distinct) s.settled]
  rfl

theorem strip_dumpNames (names : List String) : strip (dumpNames names) = dumpNames names := by
  have hList : (dumpNames names).toList =
      '[' :: ([',', ' '].intercalate (names.map Json.writeString) ++ [']']) := by
    rw [dumpNames, String.toList_ofList]
  exact strip_eq_self hList (by decide) (by decide)

theorem dumpNames_nil {names : List String} (h : names = []) : dumpNames names = "[]" := by
  rw [h]
  rfl

theorem read_stored (rt : Runtime) {φ : Type} (floats : Floats φ) (s : Selection)
    {config : Dict String String}
    (h : config.lookup "sniffer_interfaces" = some (dumpNames s.names)) :
    read_stored_sniffer_interfaces floats rt config = s := by
  have hText : strip (get_runtime_config config "sniffer_interfaces") = dumpNames s.names := by
    rw [get_runtime_config, h, Option.getD_some, strip_dumpNames]
  have hSome : dumpNames s.names ≠ "" := by
    intro hEmpty
    have hList := congrArg String.toList hEmpty
    rw [dumpNames, String.toList_ofList] at hList
    cases hList
  have hItems (names : List String) :
      Value.ofJson floats.number floats.text (.list (names.map .str)) = .list (names.map .str) := by
    rw [Value.ofJson]
    congr 1
    induction names with
    | nil => rfl
    | cons name rest ih => rw [List.map_cons, Value.ofItems, ih, Value.ofJson, List.map_cons]
  have hKept : s.names ≠ [] ∨ dumpNames s.names = "[]" := by
    by_cases hNone : s.names = []
    · exact .inr (dumpNames_nil hNone)
    · exact .inl hNone
  rw [read_stored_sniffer_interfaces, hText, if_neg hSome, loads_dumpNames]
  dsimp only
  rw [hItems, normalize_names, if_pos hKept]

/-! ## The sniffer -/

namespace Sniffer

variable {s t : Sniffer} {reason : String}

theorem select_names {available names : List String} {acc selected : Selection}
    (hDistinct : (acc.names ++ names).Nodup)
    (hSettled : ∀ name ∈ names, strip name = name ∧ name ≠ "")
    (h : names.foldlM (select available) acc = .ok selected) :
    selected.names = acc.names ++ names := by
  induction names generalizing acc with
  | nil =>
    cases h
    rw [List.append_nil]
  | cons name rest ih =>
    obtain ⟨hStrip, hSome⟩ := hSettled name List.mem_cons_self
    have hNew : name ∉ acc.names := fun hMem =>
      (List.nodup_append.mp hDistinct).2.2 name hMem name List.mem_cons_self rfl
    have hInsert := insert_names hStrip hSome hNew
    rw [List.foldlM_cons, select, if_neg (by rw [hStrip, not_or]; exact ⟨hSome, hNew⟩)] at h
    split at h
    · cases h
    · have hRest := @ih (acc.insert name)
        (by rwa [hInsert, List.append_assoc, List.singleton_append])
        (fun other hOther => hSettled other (List.mem_cons_of_mem _ hOther)) h
      rw [hRest, hInsert, List.append_assoc, List.singleton_append]

theorem set_interfaces_selected {available : List String} {selected : Selection}
    (h : s.set_interfaces available selected.names = .ok t) :
    t = { s with selected := selected } := by
  rw [set_interfaces] at h
  cases hSelect : selected.names.foldlM (select available) .empty with
  | error reason =>
    rw [hSelect] at h
    cases h
  | ok normalized =>
    rw [hSelect] at h
    cases h
    have hNames := select_names (by exact selected.distinct) selected.settled hSelect
    have hSame : normalized = selected := Selection.ext hNames
    rw [hSame]

theorem restart_selected (s : Sniffer) (a : Attempt) : (s.restart a).2.selected = s.selected := by
  rw [restart]
  cases a.stop with
  | some reason => rfl
  | none =>
    cases a.start with
    | some reason => rfl
    | none => rfl

theorem look_selected (s : Sniffer) (sight : Sight) : (s.look sight).2.selected = s.selected := by
  rw [look]
  split <;> rfl

theorem watch_selected (s : Sniffer) (last : Sight) (polls : List Sight) :
    (s.watch last polls).2.selected = s.selected := by
  induction polls generalizing s with
  | nil =>
    have hLook := look_selected s last
    rw [watch]
    split
    · next hSeen => rwa [hSeen] at hLook
    · next hSeen =>
      rw [hSeen] at hLook
      split <;> exact hLook
  | cons sight polls ih =>
    have hLook := look_selected s sight
    rw [watch]
    split
    · next hSeen => rwa [hSeen] at hLook
    · next hSeen =>
      rw [hSeen] at hLook
      exact (ih _).trans hLook

theorem restart_verified_selected (s : Sniffer) (a : Attempt) :
    (s.restart_verified a).2.selected = s.selected := by
  have hRestart := restart_selected s a
  rw [restart_verified]
  split
  · next hDone => rwa [hDone] at hRestart
  · next hDone =>
    rw [hDone] at hRestart
    exact (watch_selected _ _ _).trans hRestart

end Sniffer

/-! ## The call -/

def Controller.RollbackFailed (c : Controller) : Prop :=
  ∃ update, c.interface_update = some update ∧ update.status = "rollback_failed"

section Call

variable (rt : Runtime) {φ : Type} (floats : Floats φ) (c : Controller) (interfaces : Value)
  (p : Pattern)

def applied (c : Controller) (selected : Selection) (p : Pattern) : Except String Unit :=
  match c.sniffer.set_interfaces p.available selected.names with
  | .error reason => .error reason
  | .ok sniffer =>
    if c.sniffer.running ∧ selected ≠ c.sniffer.selected then
      (sniffer.restart_verified p.restart).1
    else .ok ()

def firstFailure : Option String :=
  match applied c (normalize_interface_selection rt interfaces) p with
  | .error reason => some reason
  | .ok () => p.persist.or p.persist_legacy

/-- What is promised of a call: when it raises, the previous selection stands or the status says
that it could not be put back, the configuration is unchanged, and the first failure is what is
raised; and when it returns, what is stored is what is selected. -/
def Promise (previous : Selection) (config : Dict String String) (first : Option String) :
    Except String RuntimeSnapshot × Controller → Prop
  | (.error reason, after) =>
    (after.sniffer.selected = previous ∨ after.RollbackFailed) ∧ after.config = config ∧
      first = some reason
  | (.ok _, after) =>
    get_runtime_config after.config "sniffer_interfaces" =
        dumpNames after.sniffer.selected.names ∧
      read_stored_sniffer_interfaces floats rt after.config = after.sniffer.selected

/-- The call keeps its promise for the first write that fails. -/
def Kept : Prop :=
  Promise rt floats c.sniffer.selected c.config (firstFailure rt c interfaces p)
    (c.set_sniffer_interfaces rt interfaces p)

/-- No step of the persistence is reached that fails; or the selection is the previous one (or an
earlier rollback counts as failed), and nothing new was stored before. -/
def Settles : Prop :=
  let selected := normalize_interface_selection rt interfaces
  applied c selected p = .ok () →
    p.persist = none ∧ p.persist_legacy = none ∨
    (selected = c.sniffer.selected ∨ c.RollbackFailed) ∧
      (p.persist ≠ none ∨
        c.config.lookup "sniffer_interfaces" = some (dumpNames selected.names))

end Call

namespace Controller

variable {c : Controller} {p : Pattern}

theorem roll_back_kept (c : Controller) (p : Pattern) (selected previous : Selection)
    (error : String) :
    ((c.roll_back p selected previous error).sniffer.selected = previous ∨
      (c.roll_back p selected previous error).RollbackFailed) ∧
    (c.roll_back p selected previous error).config = c.config := by
  rw [roll_back]
  dsimp only
  cases hSet : c.sniffer.set_interfaces p.restored previous.names with
  | error reason => exact ⟨.inr ⟨_, rfl, rfl⟩, rfl⟩
  | ok sniffer =>
    have hSelected := Sniffer.restart_verified_selected sniffer p.again
    rw [Sniffer.set_interfaces_selected hSet] at hSelected ⊢
    dsimp only
    split
    · exact ⟨.inr ⟨_, rfl, rfl⟩, rfl⟩
    · next hDone =>
      rw [hDone] at hSelected
      exact ⟨.inl hSelected, rfl⟩

/-- The end of the call keeps the promise when both entries are stored, or when what it leaves
behind was there before. -/
theorem persist_iff (rt : Runtime) {φ : Type} (floats : Floats φ) (previous : Selection)
    {selected : Selection} (hSelected : c.sniffer.selected = selected)
    (was_running changed : Bool) :
    Promise rt floats previous c.config (p.persist.or p.persist_legacy)
        (c.persist p selected was_running changed) ↔
      p.persist = none ∧ p.persist_legacy = none ∨
        (selected = previous ∨ c.RollbackFailed) ∧
          (p.persist ≠ none ∨
            c.config.lookup "sniffer_interfaces" = some (dumpNames selected.names)) := by
  subst hSelected
  rw [persist]
  cases hFirst : p.persist with
  | some reason =>
    constructor
    · exact fun hKept => .inr ⟨hKept.1, .inl (Option.some_ne_none _)⟩
    · rintro (⟨hNone, -⟩ | ⟨hStands, -⟩)
      · cases hNone
      · exact ⟨hStands, rfl, rfl⟩
  | none =>
    dsimp only [set_runtime_config]
    cases hSecond : p.persist_legacy with
    | some reason =>
      constructor
      · rintro ⟨hStands, hConfig, -⟩
        refine .inr ⟨hStands, .inr ?_⟩
        rw [← hConfig, Dict.lookup_set, if_pos rfl]
      · rintro (⟨-, hNone⟩ | ⟨hStands, hNone | hSame⟩)
        · cases hNone
        · exact absurd rfl hNone
        · exact ⟨hStands, Dict.set_of_lookup hSame, rfl⟩
    | none =>
      refine iff_of_true ?_ (.inl ⟨rfl, rfl⟩)
      have hStored (single : String) : ((c.config.set "sniffer_interfaces"
          (dumpNames c.sniffer.selected.names)).set "sniffer_interface" single).lookup
          "sniffer_interfaces" = some (dumpNames c.sniffer.selected.names) := by
        rw [Dict.lookup_set, if_neg (by decide), Dict.lookup_set, if_pos rfl]
      refine ⟨?_, read_stored rt floats _ (hStored _)⟩
      exact congrArg (Option.getD · "") (hStored _)

end Controller

/-- The promise is kept just when a failing step of the persistence, where one is reached, finds
everything as it was. -/
theorem selection_kept_iff (rt : Runtime) {φ : Type} (floats : Floats φ) (c : Controller)
    (interfaces : Value) (p : Pattern) : Kept rt floats c interfaces p ↔
    Settles rt c interfaces p := by
  rw [Kept, Settles, firstFailure, Controller.set_sniffer_interfaces, applied]
  generalize normalize_interface_selection rt interfaces = selected
  dsimp only
  cases hSet : c.sniffer.set_interfaces p.available selected.names with
  | error reason => exact iff_of_true ⟨.inl rfl, rfl, rfl⟩ fun hReached => nomatch hReached
  | ok sniffer =>
    have hSelected : sniffer.selected = selected :=
      congrArg Sniffer.selected (Sniffer.set_interfaces_selected hSet)
    dsimp only
    by_cases hRestart : c.sniffer.running = true ∧ selected ≠ c.sniffer.selected
    · rw [if_pos hRestart, if_pos (by rw [hRestart.1, decide_eq_true hRestart.2]; rfl)]
      have hVerified := Sniffer.restart_verified_selected sniffer p.restart
      cases hDone : sniffer.restart_verified p.restart with
      | mk result watched =>
        rw [hDone] at hVerified
        cases result with
        | error reason =>
          obtain ⟨hBack, hConfig⟩ := Controller.roll_back_kept
            { c with sniffer := watched } p selected c.sniffer.selected reason
          exact iff_of_true ⟨hBack, hConfig, rfl⟩ fun hReached => nomatch hReached
        | ok _ =>
          have hPersist := Controller.persist_iff (c := { c with sniffer := watched })
            (p := p)
            rt floats c.sniffer.selected (hVerified.trans hSelected) c.sniffer.running
            (decide (selected ≠ c.sniffer.selected))
          exact hPersist.trans ⟨fun h _ => h, fun h => h rfl⟩
    · have hNot : ¬(c.sniffer.running && decide (selected ≠ c.sniffer.selected)) = true := by
        rwa [Bool.and_eq_true, decide_eq_true_eq]
      have hPersist := Controller.persist_iff (c := { c with sniffer := sniffer }) (p := p)
        rt floats c.sniffer.selected hSelected c.sniffer.running
        (decide (selected ≠ c.sniffer.selected))
      rw [if_neg hRestart, if_neg hNot]
      exact hPersist.trans ⟨fun h _ => h, fun h => h rfl⟩

theorem nan_written (value : Unit) : Json.IsFloatText "NaN".toList ∧ () = value ∨
    "NaN".toList = "NaN".toList ∧ () = value ∨ "NaN".toList = "Infinity".toList ∧ () = value ∨
      "NaN".toList = "-Infinity".toList ∧ () = value :=
  .inr (.inl ⟨rfl, rfl⟩)

def oneFloat : Floats Unit where
  codec :=
    { maxDigits := 1
      write := fun _ => "NaN".toList
      read := fun _ => ()
      nan := ()
      infinity := ()
      negInfinity := ()
      maxDigits_pos := Nat.one_pos
      write_spec := nan_written }
  number _ := none
  text _ := "nan"

def lockedPattern : Pattern where
  available := ["eth0"]
  restart := { available := ["eth0"], last := ⟨true, 1, [], [], ["eth0"]⟩ }
  restored := ["eth0"]
  again := { available := ["eth0"], last := ⟨true, 1, [], [], ["eth0"]⟩ }
  persist := some "database is locked"

/-- A selection that could not be stored stands, and no status says so. -/
theorem locked_selection : ¬Kept Runtime.ascii oneFloat {} (.str "eth0") lockedPattern := by
  rintro ⟨hSame | ⟨update, hUpdate, -⟩, -⟩
  · exact absurd (congrArg Selection.names hSame) (by decide +kernel)
  · cases hUpdate

end Sniff4Hound.Interfaces
