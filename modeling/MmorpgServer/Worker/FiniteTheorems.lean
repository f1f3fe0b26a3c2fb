/-
MmorpgServer.Worker.FiniteTheorems — what a client's direction does to
positions when it is not finite.

Over `Extended` numbers everything stays finite that is computed from
finite numbers: the players, the index and with it the arguments of
`world_to_sector`, the snapshots, and what is printed of them as JSON.
The only numbers from outside are the directions of `Move` commands, and
the one test they go through, `len2 < 1e-4`, is false of NaN and of
infinities: such a direction is normalised to NaN, kept as the player's
direction, added to its position by the next tick, and printed as `nan`.
-/
import MmorpgServer.Storage.UserStateProc
import MmorpgServer.Worker.MonsterLifeTheorems
import MmorpgServer.Worker.WriteBack

namespace MmorpgServer.Worker

open MmorpgServer.Lib MmorpgServer.Field MmorpgServer.Storage Scalar

/-! ## The parts that stay in `P` -/

section

variable {K : Type} [Scalar K] {P : K → Prop} {libc : Libc K}

omit [Scalar K] in
theorem enqueueAll_in {s : Impl K} (h : s.In libc P) {snaps : List (UserSnapshot K)}
    (hsnaps : ∀ snap ∈ snaps, snap.In P) : (enqueueAll s snaps).In libc P :=
  List.foldlRecOn (motive := Impl.In libc P) _ _ h fun _ h snap hsnap => h.enqueue (hsnaps snap hsnap)

/-- The worker and the storage are in `P`. -/
structure WriteBack.In (libc : Libc K) (P : K → Prop) (st : WriteBack K) : Prop where
  field : st.field.In P
  storage : st.storage.In libc P

/-- The step takes no direction from a client that is not in `P`. -/
def WriteBackAction.InputIn (P : K → Prop) (st : WriteBack K) : WriteBackAction K → Prop
  | .field (.moveInput session entityId dir) =>
    ∀ d, st.field.motions.accepted session entityId dir = some d → d.In P
  | _ => True

theorem WriteBack.In.step (hP : Closed P) (hlibc : libc.RoundTrips P) {cfg : FieldConfig K}
    {sp : UserTable K → List (UserSnapshot K) → UserTable K} {st : WriteBack K}
    (h : st.In libc P) {a : WriteBackAction K} (hallowed : a.Allowed P st) (ha : a.InputIn P st) :
    (st.step cfg libc sp a).In libc P := by
  cases a with
  | job o job => exact ⟨h.field, h.storage.handleDbJob hlibc sp o job⟩
  | field a =>
    have hgiven : a.In P st.field := by
      cases a with
      | addPlayer pid p => exact hallowed.2
      | moveInput session entityId dir => exact ha
      | _ => trivial
    have hfield : (st.field.step cfg a).In P := h.field.step hP hgiven
    refine ⟨hfield, enqueueAll_in h.storage fun snap hsnap => ?_⟩
    obtain ⟨e, he, hsome⟩ := List.mem_filterMap.mp hsnap
    split at hsome
    · cases hsome
      obtain ⟨hx, hz⟩ := hfield.written _ (List.mem_of_mem_drop he)
      exact ⟨hx, hz⟩
    · cases hsome

end

/-! ## Finite runs -/

/-- Directions and positions of the players are finite, `world_to_sector`
has been given finite positions, and what was handed to
`BuildSnapshotJson` last is printed as numbers. -/
structure WriteBack.Finite (st : WriteBack (Extended ℚ)) : Prop where
  players : ∀ pid ∈ st.field.players,
    (st.field.player pid).moveState.dir.In Extended.Finite ∧
      (st.field.player pid).pos.In Extended.Finite
  sectors : ∀ id e, st.field.aoiSystem.aoi.entities id = some e → e.pos.In Extended.Finite
  json : ∀ snap ∈ st.storage.snap,
    JsonNumber (printDouble snap.x).toList ∧ JsonNumber (printDouble snap.z).toList

theorem WriteBack.In.finite {libc : Libc (Extended ℚ)} {st : WriteBack (Extended ℚ)}
    (h : st.In libc Extended.Finite) : st.Finite where
  players pid hpid := ⟨(h.field.players pid hpid).dir, (h.field.players pid hpid).pos⟩
  sectors := h.field.entities
  json snap hsnap := by
    have hin := h.storage.fetched snap hsnap
    exact ⟨(jsonNumber_printDouble _).mpr hin.x, (jsonNumber_printDouble _).mpr hin.z⟩

/-- An accepted direction that is not finite is the player's direction at
once, and it has a NaN in it. -/
theorem not_finite_of_input {cfg : FieldConfig (Extended ℚ)} {libc : Libc (Extended ℚ)}
    {sp : UserTable (Extended ℚ) → List (UserSnapshot (Extended ℚ)) → UserTable (Extended ℚ)}
    {st : WriteBack (Extended ℚ)} {a : WriteBackAction (Extended ℚ)}
    (ha : ¬ a.InputIn Extended.Finite st) : ¬ (st.step cfg libc sp a).Finite := by
  cases a with
  | job o job => exact absurd trivial ha
  | field a =>
    cases a with
    | moveInput session entityId dir =>
      obtain ⟨d, hd, hnot⟩ : ∃ d, st.field.motions.accepted session entityId dir = some d ∧
          ¬ d.In Extended.Finite := by
        simpa [WriteBackAction.InputIn] using ha
      have hin : entityId ∈ st.field.players := by
        by_contra hout
        simp [Motions.accepted, hout] at hd
      have hmotions : (st.field.onClientMoveInput session entityId dir).motions =
          st.field.motions.setMotion entityId
            ((st.field.motions.motion entityId).input st.field.worldTime d) := by
        rw [FieldWorker.motions_onClientMoveInput, Motions.step, hd]
        rfl
      have hplayers : (st.field.onClientMoveInput session entityId dir).players =
          st.field.players := congrArg Motions.players hmotions
      intro hfinite
      have hdir : ((st.field.motions.motion entityId).input st.field.worldTime d).moveState.dir.In
          Extended.Finite := by
        have hafter := (hfinite.players entityId (hplayers ▸ hin)).1
        have hmotion : (st.field.onClientMoveInput session entityId dir).motions.motion entityId =
            (st.field.motions.motion entityId).input st.field.worldTime d := by
          rw [hmotions, Motions.setMotion_motion]
        rw [← hmotion]
        exact hafter
      have hxy : ¬ (d.x.Finite ∧ d.y.Finite) := fun h => hnot ⟨h.1, h.2⟩
      obtain ⟨hlen, hnan⟩ := Extended.not_finite_unit hxy 0.0001
      simp only [Motion.input, hlen, if_false] at hdir
      rcases hnan with hnan | hnan
      · have hx := hdir.x
        rw [hnan] at hx
        cases hx
      · have hy := hdir.y
        rw [hnan] at hy
        cases hy
    | _ => exact absurd trivial ha

/-- **When positions stay finite.** In a run of a field worker and its
storage that starts from finite coordinates, every state has finite
directions and positions, finite arguments of `world_to_sector` and JSON
numbers in what it hands on, exactly if every direction accepted from a
client is finite. -/
theorem positions_finite (cfg : FieldConfig (Extended ℚ)) (libc : Libc (Extended ℚ))
    (hlibc : libc.RoundTrips Extended.Finite)
    (sp : UserTable (Extended ℚ) → List (UserSnapshot (Extended ℚ)) → UserTable (Extended ℚ))
    (redisRtWriter : Bool) (l : List (WriteBack (Extended ℚ) × WriteBackAction (Extended ℚ)))
    (st : WriteBack (Extended ℚ))
    (r : Run (writeBackSystem Extended.Finite cfg libc sp redisRtWriter) l st) :
    ((∀ p ∈ l, p.1.Finite) ∧ st.Finite) ↔ ∀ p ∈ l, p.2.InputIn Extended.Finite p.1 := by
  refine r.good_iff_steps (I := fun st => st.In libc Extended.Finite) (G := WriteBack.Finite)
    (P := fun st a => a.InputIn Extended.Finite st) ?_ ?_ ?_ ?_
  · rintro st ⟨⟨player, spawns, -, hspawns, hfield⟩, redis, table, hrows, hstorage⟩
    refine ⟨?_, ?_⟩
    · rw [hfield]
      exact FieldWorker.construct_in Extended.finite_closed cfg player redisRtWriter hspawns
    · rw [hstorage]
      exact ⟨by simp, hrows, by simp⟩
  · rintro st a st' h ha ⟨hallowed, rfl⟩
    exact h.step Extended.finite_closed hlibc hallowed ha
  · exact fun st h => h.finite
  · rintro st a st' - ha ⟨-, rfl⟩
    exact not_finite_of_input ha

/-! ## A walk and a NaN -/

/-- `printf`, `strtof` and `atoi`. -/
def decimalLibc : Libc (Extended ℚ) where
  printFloat x :=
    match x with
    | .fin q => String.ofList (printF 6 q)
    | .inf false => "inf"
    | .inf true => "-inf"
    | .nan => "nan"
  printInt := toString
  strtof str :=
    if str = "inf" then .inf false else if str = "-inf" then .inf true
    else if str = "nan" then .nan else .fin (readDecimal str.toList)
  atoi str := (readDecimal str.toList).floor
  floatOfInt n := .fin n

/-- What `%f` prints of a finite number is none of the names of the
numbers that are not. -/
theorem decimalLibc_roundTrips : decimalLibc.RoundTrips Extended.Finite := by
  intro x hx
  obtain ⟨q, rfl⟩ := Extended.eq_fin_of_isFinite hx
  have hnumber := jsonNumber_printF (k := 6) (by decide) q
  have hname : ∀ name : String, ¬ JsonNumber name.toList →
      decimalLibc.printFloat (.fin q) ≠ name := by
    rintro name hno rfl
    exact hno (by simpa [decimalLibc] using hnumber)
  have hinf := hname "inf" (not_jsonNumber_cons (by decide) rfl)
  have hneg := hname "-inf" (not_jsonNumber_sign rfl)
  have hnan := hname "nan" (not_jsonNumber_cons (by decide) rfl)
  show Extended.Finite (if _ then _ else _)
  rw [if_neg hinf, if_neg hneg, if_neg hnan]
  rfl

/-- Sorted containers; a float that is not finite is converted to 0. -/
def extendedConfig : FieldConfig (Extended ℚ) where
  floor x :=
    match x with
    | .fin q => q.floor
    | _ => 0
  aoiOrder := sortedConfig.aoiOrder
  playerOrder := sortedConfig.playerOrder

/-- A player as the game worker puts it into a field. -/
def standing : Player (Extended ℚ) where
  pos := ⟨.fin 45, .fin 30⟩
  moveState := { dir := ⟨.fin 0, .fin 0⟩, moving := false, speed := .fin 5, lastInputTime := .fin 0 }
  stat := {}
  lastDirtyMarkTime := .fin 0

/-- The player enters, its client sends a direction, a frame follows and
then a database job in which nothing fails. -/
def walkActions (d : Vec2 (Extended ℚ)) : List (WriteBackAction (Extended ℚ)) :=
  [.field (.addPlayer 1 standing), .field (.moveInput (some 1) 1 (some d)),
    .field (.updateWorld (fun _ _ => .fin 0) (.fin (3 / 10))),
    .job (.allOk plainRedis) { uids := [1] }]

def walkStart : WriteBack (Extended ℚ) :=
  { field := FieldWorker.construct extendedConfig (fun _ => standing) true [], storage := {} }

def walk (d : Vec2 (Extended ℚ)) : WriteBack (Extended ℚ) :=
  (walkActions d).foldl (WriteBack.step extendedConfig decimalLibc upsertUserState) walkStart

theorem run_walk (d : Vec2 (Extended ℚ)) : ∃ l,
    Run (writeBackSystem Extended.Finite extendedConfig decimalLibc upsertUserState true) l
      (walk d) ∧ ∀ p ∈ l, p.2 ∈ walkActions d := by
  have r₀ : Run (writeBackSystem Extended.Finite extendedConfig decimalLibc upsertUserState true)
      [] walkStart := by
    refine .start ⟨⟨fun _ => standing, [], List.nodup_nil, by simp, rfl⟩, fun _ => none,
      fun _ => none, ?_, rfl⟩
    intro uid row hrow
    cases hrow
  have hstanding : standing.motion.In Extended.Finite := ⟨⟨rfl, rfl⟩, ⟨rfl, rfl⟩, rfl⟩
  have r := (((r₀.next (.field (.addPlayer 1 standing)) ⟨⟨List.not_mem_nil, hstanding⟩, rfl⟩).next
    (.field (.moveInput (some 1) 1 (some d))) ⟨trivial, rfl⟩).next
    (.field (.updateWorld (fun _ _ => .fin 0) (.fin (3 / 10)))) ⟨trivial, rfl⟩).next
    (.job (.allOk plainRedis) { uids := [1] }) ⟨trivial, rfl⟩
  exact ⟨_, r, by simp [walkActions]⟩

/-- The client sends `(0, 1)`: everything stays finite, and the job hands
on where the player is. -/
theorem positions_finite_walk : ∃ l,
    Run (writeBackSystem Extended.Finite extendedConfig decimalLibc upsertUserState true) l
      (walk ⟨.fin 0, .fin 1⟩) ∧
      ((∀ p ∈ l, p.1.Finite) ∧ (walk ⟨.fin 0, .fin 1⟩).Finite) ∧
      buildSnapshotJson (walk ⟨.fin 0, .fin 1⟩).storage.snap =
        "[\x7b\"uid\":1,\"x\":45,\"z\":30.225,\"hp\":500,\"sp\":100\x7d]" := by
  obtain ⟨l, r, hl⟩ := run_walk ⟨.fin 0, .fin 1⟩
  have hinput : ∀ a ∈ walkActions ⟨.fin 0, .fin 1⟩, ∀ st, a.InputIn Extended.Finite st := by
    simp only [walkActions, List.forall_mem_cons, List.not_mem_nil, false_implies, implies_true,
      and_true]
    refine ⟨fun _ => trivial, fun st d hd => ?_, fun _ => trivial, fun _ => trivial⟩
    unfold Motions.accepted at hd
    split at hd
    · cases hd
      exact ⟨rfl, rfl⟩
    · cases hd
  refine ⟨l, r, (positions_finite extendedConfig decimalLibc decimalLibc_roundTrips
    upsertUserState true l _ r).mpr fun p hp => hinput p.2 (hl p hp) p.1, by decide +kernel⟩

/-- The client sends `(NaN, 0)`: the player goes to a position that is not
finite, the index is given it, and the job hands on what is no JSON. -/
theorem positions_finite_nan : ∃ l,
    Run (writeBackSystem Extended.Finite extendedConfig decimalLibc upsertUserState true) l
      (walk ⟨.nan, .fin 0⟩) ∧
      ¬ ((walk ⟨.nan, .fin 0⟩).field.player 1).moveState.dir.In Extended.Finite ∧
      ¬ ((walk ⟨.nan, .fin 0⟩).field.player 1).pos.In Extended.Finite ∧
      (∃ e, (walk ⟨.nan, .fin 0⟩).field.aoiSystem.aoi.entities 1 = some e ∧
        ¬ e.pos.In Extended.Finite) ∧
      ∃ snap ∈ (walk ⟨.nan, .fin 0⟩).storage.snap, ¬ JsonNumber (printDouble snap.x).toList := by
  have hnan : ∀ v : Vec2 (Extended ℚ), v = ⟨.nan, .nan⟩ → ¬ v.In Extended.Finite := by
    rintro v rfl h
    cases h.x
  have hdir : ((walk ⟨.nan, .fin 0⟩).field.player 1).moveState.dir = ⟨.nan, .nan⟩ := by
    decide +kernel
  have hpos : ((walk ⟨.nan, .fin 0⟩).field.player 1).pos = ⟨.nan, .nan⟩ := by decide +kernel
  have hplace : ((walk ⟨.nan, .fin 0⟩).field.aoiSystem.aoi.entities 1).map Entity.pos =
      some ⟨.nan, .nan⟩ := by decide +kernel
  have hsnap : (⟨1, .nan, .nan, 500, 100, 0⟩ : UserSnapshot (Extended ℚ)) ∈
      (walk ⟨.nan, .fin 0⟩).storage.snap := by decide +kernel
  obtain ⟨l, r, -⟩ := run_walk ⟨.nan, .fin 0⟩
  obtain ⟨e, he, hepos⟩ := Option.map_eq_some_iff.mp hplace
  refine ⟨l, r, hnan _ hdir, hnan _ hpos, ⟨e, he, hnan _ hepos⟩, _, hsnap, ?_⟩
  rw [jsonNumber_printDouble]
  exact Bool.false_ne_true

end MmorpgServer.Worker
