import Sniff4Hound.Detection.StoredMatch

/-!
# Three ways to ask for a slice of the protocols

The HTTP endpoint, the parameters of the feeds and the action of the multiplexed channel read the
same parameters, each in its own code. The two former take an absent protocol for no filter; the
action normalizes it first and so asks for the packets of the protocol named "unknown". They agree
on the filters exactly when a protocol is named or nothing is asked at all, and on the limit too
when one is given (`slices_agree_iff`).
-/

namespace Sniff4Hound.Realtime

inductive Refusal where
  /-- `ValueError` -/
  | value (message : String)
  /-- `KeyError` -/
  | key (name : String)
  /-- `OverflowError` -/
  | overflow
deriving DecidableEq

structure SliceEnv where
  rt : Runtime
  /-- `API_MAX_LIMIT` -/
  api_max_limit : Int
  /-- The text of `utc_since`, unless the time is out of the range of dates. -/
  utc_since : Nat → Option String

structure SliceFilters where
  proto : String
  mode : String
  interface : String
  search : String
  since : String
deriving DecidableEq

/-- The arguments of `store.protocol_snapshot`. -/
structure SliceArgs extends SliceFilters where
  limit : Int
deriving DecidableEq

/-- What `_normalize_feed_params` answers; most feeds read only some of it. -/
structure FeedParams extends SliceArgs where
  scope : String
  cycles : Int
  threshold : Int

variable (env : SliceEnv)

/-! ## The parameters -/

/-- `str(value)` of a value that is there. -/
def givenText (rt : Runtime) : Value → String
  | .null => ""
  | value => value.toText rt

def normalize_limit (value : Value) (default : Int) : Except Refusal Int :=
  let raw := strip (givenText env.rt value)
  let refused := Refusal.value
    ("limit must be an integer between 1 and " ++ toString env.api_max_limit)
  if raw = "" then .ok default
  else
    match parseInt env.rt raw with
    | none => .error refused
    | some number => if number < 1 then .error refused else .ok (min number env.api_max_limit)

def SINCE_WINDOW_UNITS : List (Char × Nat) :=
  [('s', 1), ('m', 60), ('h', 3600), ('d', 86400), ('w', 604800)]

/-- `SINCE_WINDOW_RE`: the digits and the unit. Without regard to case the class of the units has
the long s too. -/
def sinceWindow? (rt : Runtime) (raw : String) : Option (List Char × Char) :=
  let digits := raw.toList.takeWhile fun c => (rt.decimal c).isSome
  let rest := (raw.toList.dropWhile fun c => (rt.decimal c).isSome).dropWhile isSpace
  let isUnit := fun c : Char => c ∈ "smhdwSMHDW".toList ∨ c = 'ſ'
  match rest with
  | [unit] => if digits ≠ [] ∧ isUnit unit then some (digits, unit) else none
  | [unit, '\n'] => if digits ≠ [] ∧ isUnit unit then some (digits, unit) else none
  | _ => none

def parse_since_window (value : Value) : Except Refusal String :=
  let raw := strip (value.text env.rt)
  if raw = "" then .ok ""
  else
    match sinceWindow? env.rt raw with
    | none => .error (.value
        "since must be a relative window like '15m', '1h', '6h', '24h' or '7d'")
    | some (digits, unit) =>
      match parseNat env.rt digits with
      | none => .error (.value ("Exceeds the limit (4300 digits) for integer string conversion: " ++
          "value has " ++ toString digits.length ++ " digits; use " ++
          "sys.set_int_max_str_digits() to increase the limit"))
      | some amount =>
        if amount = 0 then .error (.value "since window must be greater than zero")
        else
          match SINCE_WINDOW_UNITS.lookup unit.toLower with
          | none => .error (.key (String.ofList [unit]))
          | some seconds =>
            match env.utc_since (amount * seconds) with
            | none => .error .overflow
            | some cutoff => .ok cutoff

def clamp_int (rt : Runtime) (value : Value) (minimum maximum default : Int) : Int :=
  match value.toInt? rt with
  | none => default
  | some number => max minimum (min maximum number)

/-! ## The three ways -/

/-- The arguments of `store.protocol_snapshot` in `protocol_snapshot_api`. -/
def protocol_snapshot_api (query : String → Value) : Except Refusal SliceArgs := do
  let raw_proto := env.rt.lower (strip ((query "proto").text env.rt))
  let proto :=
    if raw_proto = "" ∨ raw_proto = "all" then ""
    else normalize_protocol_name env.rt (.str raw_proto)
  let since ← parse_since_window env (query "since")
  let limit ← normalize_limit env (query "limit") 100
  pure {
    proto
    mode := env.rt.lower (strip ((query "mode").text env.rt))
    interface := strip ((query "interface").text env.rt)
    search := strip ((query "search").text env.rt)
    since
    limit }

def normalize_feed_params (query : String → Value) : Except Refusal FeedParams := do
  let raw_proto := env.rt.lower (strip ((query "proto").text env.rt))
  let proto :=
    if raw_proto = "" ∨ raw_proto = "all" then ""
    else normalize_protocol_name env.rt (.str raw_proto)
  let limit ← normalize_limit env (query "limit") 250
  pure {
    proto
    mode := env.rt.lower (strip ((query "mode").text env.rt))
    interface := strip ((query "interface").text env.rt)
    search := strip ((query "search").text env.rt)
    since := strip ((query "since").text env.rt)
    limit
    scope := env.rt.lower (strip ((query "scope").text env.rt))
    cycles := max 1 (min 20 ((query "cycles").safe_int env.rt 4))
    threshold := clamp_int env.rt (query "threshold") 1 99 50 }

/-- The parameters of `subscribe_protocol_snapshot` in `_realtime_dispatch`. -/
def subscribe_params (data : String → Value) : Except Refusal SliceArgs := do
  let proto := normalize_protocol_name env.rt ((data "proto").orElse (.str ""))
  let limit ← normalize_limit env (data "limit") 250
  pure {
    proto := if proto = "all" then "" else proto
    mode := env.rt.lower (strip ((data "mode").text env.rt))
    interface := strip ((data "interface").text env.rt)
    search := strip ((data "search").text env.rt)
    since := strip ((data "since").text env.rt)
    limit }

/-- The arguments of `_feed_protocols` in `_feed_payload` and in `_protocol_snapshot_payload`: a
subscription keeps the window, and every delivery counts it from its own time. -/
def delivered (params : SliceArgs) : Except Refusal SliceArgs := do
  let since ← parse_since_window env (.str params.since)
  pure { params with since }

def feedSlice (query : String → Value) : Except Refusal SliceArgs := do
  let params ← normalize_feed_params env query
  delivered env params.toSliceArgs

def channelSlice (data : String → Value) : Except Refusal SliceArgs := do
  let params ← subscribe_params env data
  delivered env params

/-- The three readers refuse the query together or give the same arguments. -/
def SameSlice (query : String → Value) : Prop :=
  (protocol_snapshot_api env query).toOption = (feedSlice env query).toOption ∧
    (feedSlice env query).toOption = (channelSlice env query).toOption

def SameFilters (query : String → Value) : Prop :=
  (protocol_snapshot_api env query).toOption.map SliceArgs.toSliceFilters =
      (feedSlice env query).toOption.map SliceArgs.toSliceFilters ∧
    (feedSlice env query).toOption.map SliceArgs.toSliceFilters =
      (channelSlice env query).toOption.map SliceArgs.toSliceFilters

def Unreadable (query : String → Value) : Prop :=
  (parse_since_window env (query "since")).toOption = none ∨
    (normalize_limit env (query "limit") 1).toOption = none

def Given (rt : Runtime) (value : Value) : Prop := strip (givenText rt value) ≠ ""

def Named (rt : Runtime) (value : Value) : Prop := strip (value.text rt) ≠ ""

/-! ## What they have in common -/

section Shared

variable {env} {query : String → Value}

def sliceOf (env : SliceEnv) (query : String → Value) (proto since : String) (limit : Int) :
    SliceArgs where
  proto := proto
  mode := env.rt.lower (strip ((query "mode").text env.rt))
  interface := strip ((query "interface").text env.rt)
  search := strip ((query "search").text env.rt)
  since := since
  limit := limit

def protoOf (rt : Runtime) (value : Value) : String :=
  let raw_proto := rt.lower (strip (value.text rt))
  if raw_proto = "" ∨ raw_proto = "all" then "" else normalize_protocol_name rt (.str raw_proto)

def channelProto (rt : Runtime) (value : Value) : String :=
  let proto := normalize_protocol_name rt (value.orElse (.str ""))
  if proto = "all" then "" else proto

theorem text_orElse (rt : Runtime) (value : Value) :
    (value.orElse (.str "")).text rt = value.text rt := by
  by_cases hTrue : value.truthy = true
  · rw [Value.orElse, if_pos hTrue]
  · rw [Value.text, Value.text, Value.orElse, Value.orElse, if_neg hTrue]
    rfl

theorem channelProto_eq_iff (hLower : env.rt.LowersText) (value : Value) :
    protoOf env.rt value = channelProto env.rt value ↔ Named env.rt value := by
  unfold protoOf channelProto Named normalize_protocol_name
  dsimp only
  rw [text_orElse, text_str, lower_stored hLower]
  by_cases hBlank : strip (value.text env.rt) = ""
  · have hNone : env.rt.lower (strip (value.text env.rt)) = "" :=
      (env.rt.lower_eq_empty _).mpr hBlank
    rw [if_pos (Or.inl hNone), if_pos hNone]
    exact iff_of_false (by decide) (not_not_intro hBlank)
  · have hSome : env.rt.lower (strip (value.text env.rt)) ≠ "" := fun hNone =>
      hBlank ((env.rt.lower_eq_empty _).mp hNone)
    refine iff_of_true ?_ hBlank
    rw [if_neg hSome]
    by_cases hAll : env.rt.lower (strip (value.text env.rt)) = "all"
    · rw [if_pos (Or.inr hAll), if_pos hAll]
    · rw [if_neg (not_or.mpr ⟨hSome, hAll⟩), if_neg hAll]

theorem parse_since_kept (value : Value) :
    parse_since_window env (.str (strip (value.text env.rt))) = parse_since_window env value := by
  rw [parse_since_window, text_str, strip_strip]
  rfl

theorem normalize_limit_eq (value : Value) (default : Int) :
    (Given env.rt value → normalize_limit env value default = normalize_limit env value 1) ∧
      (¬Given env.rt value → normalize_limit env value default = .ok default) := by
  constructor
  · intro hGiven
    rw [normalize_limit, normalize_limit, if_neg hGiven, if_neg hGiven]
  · intro hBlank
    rw [normalize_limit, if_pos (not_not.mp hBlank)]

theorem protocol_snapshot_api_eq : protocol_snapshot_api env query = (do
    let since ← parse_since_window env (query "since")
    let limit ← normalize_limit env (query "limit") 100
    pure (sliceOf env query (protoOf env.rt (query "proto")) since limit)) := rfl

theorem feedSlice_eq : feedSlice env query = (do
    let limit ← normalize_limit env (query "limit") 250
    let since ← parse_since_window env (query "since")
    pure (sliceOf env query (protoOf env.rt (query "proto")) since limit)) := by
  unfold feedSlice normalize_feed_params delivered
  cases normalize_limit env (query "limit") 250 with
  | error e => rfl
  | ok limit =>
    rw [← parse_since_kept]
    rfl

theorem channelSlice_eq : channelSlice env query = (do
    let limit ← normalize_limit env (query "limit") 250
    let since ← parse_since_window env (query "since")
    pure (sliceOf env query (channelProto env.rt (query "proto")) since limit)) := by
  unfold channelSlice subscribe_params delivered
  cases normalize_limit env (query "limit") 250 with
  | error e => rfl
  | ok limit =>
    rw [← parse_since_kept]
    rfl

theorem sliceOf_inj {proto proto' since : String} {limit limit' : Int} :
    sliceOf env query proto since limit = sliceOf env query proto' since limit' ↔
      proto = proto' ∧ limit = limit' := by
  constructor
  · intro hSame
    exact ⟨congrArg (fun args => args.proto) hSame, congrArg SliceArgs.limit hSame⟩
  · rintro ⟨rfl, rfl⟩
    rfl

theorem filters_inj {proto proto' since : String} {limit limit' : Int} :
    (sliceOf env query proto since limit).toSliceFilters =
      (sliceOf env query proto' since limit').toSliceFilters ↔ proto = proto' := by
  constructor
  · exact fun hSame => congrArg SliceFilters.proto hSame
  · rintro rfl
    rfl

theorem slices_eq (query : String → Value) :
    (Unreadable env query ∧ (protocol_snapshot_api env query).toOption = none ∧
        (feedSlice env query).toOption = none ∧ (channelSlice env query).toOption = none) ∨
      ∃ since limit limit', ¬Unreadable env query ∧
        (limit = limit' ↔ Given env.rt (query "limit")) ∧
        (protocol_snapshot_api env query).toOption =
          some (sliceOf env query (protoOf env.rt (query "proto")) since limit) ∧
        (feedSlice env query).toOption =
          some (sliceOf env query (protoOf env.rt (query "proto")) since limit') ∧
        (channelSlice env query).toOption =
          some (sliceOf env query (channelProto env.rt (query "proto")) since limit') := by
  rw [protocol_snapshot_api_eq, feedSlice_eq, channelSlice_eq, Unreadable]
  obtain ⟨hSame, hDefault⟩ := @normalize_limit_eq env (query "limit") 100
  obtain ⟨hSame', hDefault'⟩ := @normalize_limit_eq env (query "limit") 250
  obtain ⟨-, hOne⟩ := @normalize_limit_eq env (query "limit") 1
  by_cases hGiven : Given env.rt (query "limit")
  · rw [hSame hGiven, hSame' hGiven]
    cases normalize_limit env (query "limit") 1 with
    | error e =>
      left
      cases parse_since_window env (query "since") with
      | error e' => exact ⟨Or.inl rfl, rfl, rfl, rfl⟩
      | ok since => exact ⟨Or.inr rfl, rfl, rfl, rfl⟩
    | ok limit =>
      cases parse_since_window env (query "since") with
      | error e' => exact Or.inl ⟨Or.inl rfl, rfl, rfl, rfl⟩
      | ok since =>
        refine Or.inr ⟨since, limit, limit, ?_, iff_of_true rfl hGiven, rfl, rfl, rfl⟩
        rintro (hNone | hNone)
        · cases hNone
        · cases hNone
  · rw [hDefault hGiven, hDefault' hGiven, hOne hGiven]
    cases parse_since_window env (query "since") with
    | error e' => exact Or.inl ⟨Or.inl rfl, rfl, rfl, rfl⟩
    | ok since =>
      refine Or.inr ⟨since, 100, 250, ?_, iff_of_false (by decide) hGiven, rfl, rfl, rfl⟩
      rintro (hNone | hNone)
      · cases hNone
      · cases hNone

end Shared

/-- The three select the same filters exactly when a protocol is named or nothing can be asked, and
pass the same limit too exactly when one is given besides. -/
theorem slices_agree_iff (hLower : env.rt.LowersText) (query : String → Value) :
    (SameFilters env query ↔ Unreadable env query ∨ Named env.rt (query "proto")) ∧
      (SameSlice env query ↔ Unreadable env query ∨
        Named env.rt (query "proto") ∧ Given env.rt (query "limit")) := by
  have hProto := channelProto_eq_iff hLower (query "proto")
  rw [SameFilters, SameSlice]
  rcases @slices_eq env query with ⟨hNone, hApi, hFeed, hChannel⟩ |
    ⟨since, limit, limit', hSome, hLimit, hApi, hFeed, hChannel⟩
  · rw [hApi, hFeed, hChannel]
    exact ⟨iff_of_true ⟨rfl, rfl⟩ (Or.inl hNone), iff_of_true ⟨rfl, rfl⟩ (Or.inl hNone)⟩
  · rw [hApi, hFeed, hChannel, or_iff_right hSome, or_iff_right hSome, ← hProto, ← hLimit]
    simp only [Option.map_some, Option.some_inj]
    rw [filters_inj, filters_inj, sliceOf_inj, sliceOf_inj]
    refine ⟨⟨fun h => h.2, fun h => ⟨rfl, h⟩⟩, ⟨fun h => ⟨h.2.1, h.1.2⟩, fun h => ?_⟩⟩
    exact ⟨⟨rfl, h.2⟩, h.1, rfl⟩

/-- The slice of TLS, fifty packets of it. -/
theorem tls_slices_agree : SameSlice ⟨.ascii, 1000, fun _ => none⟩ (fun name =>
    if name = "proto" then .str "TLS" else if name = "limit" then .str "50" else .null) :=
  (slices_agree_iff ⟨.ascii, 1000, fun _ => none⟩ Runtime.lowersText_ascii
    fun name => if name = "proto" then .str "TLS" else if name =
      "limit" then .str "50" else .null).2.mpr
      (Or.inr ⟨by unfold Named; decide, by unfold Given; decide⟩)

/-- With a limit and no protocol, the channel asks for the packets of "unknown". -/
theorem unnamed_slices_differ :
    ¬SameFilters ⟨.ascii, 1000, fun _ => none⟩
      fun name => if name = "limit" then .str "50" else .null := by
  intro hSame
  have hProto := congrArg (Option.map SliceFilters.proto) hSame.2
  revert hProto
  decide

end Sniff4Hound.Realtime
