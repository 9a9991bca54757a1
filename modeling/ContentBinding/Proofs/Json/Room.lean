import Mathlib.Order.Nat
import ContentBinding.Json.Bytes

/-! The room that it takes to read a text. Where it was enough, more of it changes nothing, and there
is so much that it is enough. So every text has a depth of its own. -/

namespace ContentBinding.Json

namespace Reader

variable {α : Type} {room room' fuel opened : Nat} {cs acc : List Char}

/-- Nothing ended for want of room. -/
def Fits (r : Except Failure α) : Prop :=
  ∀ f, r = .error f → ∀ c, f.fault ≠ .noRoom c

theorem fits_ok (a : α) : Fits (.ok a) :=
  nofun

theorem fits_error {f : Failure} (h : ∀ c, f.fault ≠ .noRoom c) : Fits (.error f : Except Failure α) := by
  intro g hg
  obtain rfl := Except.error.inj hg
  exact h

/-! More room -/

theorem Failure.within_eq (f : Failure) (hle : room ≤ room')
    (h : ∀ c, (f.within room).fault ≠ .noRoom c) : f.within room' = f.within room := by
  unfold Failure.within at h ⊢
  split at h
  · next hcalls => rw [if_pos hcalls, if_pos (Nat.le_trans hcalls hle)]
  · exact absurd rfl (h .helper)

theorem told_eq {r : Result α} (hle : room ≤ room') (h : Fits (told room r)) :
    told room' r = told room r := by
  cases r with
  | ok a => rfl
  | error f =>
    have hfault := h _ rfl
    refine congrArg Except.error ?_
    dsimp only at hfault ⊢
    split at hfault
    · next heq => rw [if_pos heq, if_pos heq]
    · next hne => rw [if_neg hne, if_neg hne, Failure.within_eq f hle hfault]

theorem takeScalar_eq (hle : room ≤ room') (h : Fits (takeScalar room cs)) :
    takeScalar room' cs = takeScalar room cs := by
  unfold takeScalar at h ⊢
  split at h
  · rfl
  · split at h
    · exact absurd rfl (h _ rfl .helper)
    · next hroom => rw [if_neg hroom, if_neg (by omega)]
  · rfl

/-- What is taken with enough room is taken with more. -/
def IsStable (take : Nat → List Char → Result α) : Prop :=
  ∀ room room' cs, room ≤ room' → Fits (take room cs) → take room' cs = take room cs

theorem isStable_takeValue
    (hmembers : ∀ acc, IsStable fun room cs => takeMembers fuel room acc cs)
    (hitems : ∀ acc, IsStable fun room cs => takeItems fuel room acc cs) :
    IsStable (takeValue (fuel + 1)) := by
  intro room room' cs hle h
  unfold takeValue at h ⊢
  split at h
  · rw [told_eq hle fun f hf => h f (by rw [hf])]
  · cases room with
    | zero => exact absurd rfl (h _ rfl .object)
    | succ room =>
      -- a call inside this one has one place less on both sides
      obtain ⟨room', rfl⟩ := Nat.exists_eq_succ_of_ne_zero (Nat.ne_zero_of_lt hle)
      dsimp only at h ⊢
      split at h
      · rfl
      · exact hmembers _ _ _ _ (Nat.le_of_succ_le_succ hle) h
  · cases room with
    | zero => exact absurd rfl (h _ rfl .array)
    | succ room =>
      obtain ⟨room', rfl⟩ := Nat.exists_eq_succ_of_ne_zero (Nat.ne_zero_of_lt hle)
      dsimp only at h ⊢
      split at h
      · rfl
      · exact hitems _ _ _ _ (Nat.le_of_succ_le_succ hle) h
  · exact takeScalar_eq hle h

theorem isStable_takeMembers (hvalue : IsStable (takeValue fuel))
    (hmembers : ∀ acc, IsStable fun room cs => takeMembers fuel room acc cs)
    (acc : List (String × Value)) :
    IsStable fun room cs => takeMembers (fuel + 1) room acc cs := by
  intro room room' cs hle h
  dsimp only at h ⊢
  unfold takeMembers at h ⊢
  split at h
  · rw [told_eq hle fun f hf => h f (by rw [hf])]
    split at h
    · rfl
    split at h
    · rw [hvalue _ _ _ hle fun f hf => h f (by rw [hf])]
      split at h
      · rfl
      split at h
      · rfl
      · exact hmembers _ _ _ _ hle h
      · exact told_eq hle h
    · exact told_eq hle h
  · exact told_eq hle h

theorem isStable_takeItems (hvalue : IsStable (takeValue fuel))
    (hitems : ∀ acc, IsStable fun room cs => takeItems fuel room acc cs) (acc : List Value) :
    IsStable fun room cs => takeItems (fuel + 1) room acc cs := by
  intro room room' cs hle h
  dsimp only at h ⊢
  unfold takeItems at h ⊢
  rw [hvalue _ _ _ hle fun f hf => h f (by rw [hf])]
  split at h
  · rfl
  split at h
  · rfl
  · exact hitems _ _ _ _ hle h
  · exact told_eq hle h

theorem isStable_take (fuel : Nat) : IsStable (takeValue fuel) ∧
    (∀ acc, IsStable fun room cs => takeMembers fuel room acc cs) ∧
    ∀ acc, IsStable fun room cs => takeItems fuel room acc cs := by
  induction fuel with
  | zero => exact ⟨fun _ _ _ _ _ => rfl, fun _ _ _ _ _ _ => rfl, fun _ _ _ _ _ _ => rfl⟩
  | succ fuel ih =>
    obtain ⟨hvalue, hmembers, hitems⟩ := ih
    exact ⟨isStable_takeValue hmembers hitems, isStable_takeMembers hvalue hmembers,
      isStable_takeItems hvalue hitems⟩

/-! Enough room -/

theorem calls_le (f : Fault) : f.calls ≤ 3 := by
  cases f <;> simp [Fault.calls]

theorem Failure.within_of_three_le (f : Failure) (h : 3 ≤ room) : f.within room = f :=
  if_pos ((calls_le f.fault).trans h)

theorem fits_told {r : Result α} (h : 3 ≤ room) (hr : Fits r) : Fits (told room r) := by
  cases r with
  | ok a => exact fits_ok a
  | error f =>
    have hsame : told room (.error f : Result α) = .error f := by
      refine congrArg Except.error ?_
      dsimp only
      rw [f.within_of_three_le h, ite_self]
    rw [hsame]
    exact hr

theorem fits_takeUnicode (cs : List Char) : Fits (takeUnicode cs) := by
  unfold takeUnicode
  split
  · exact fits_error fun _ => Fault.noConfusion
  split
  · exact fits_error fun _ => Fault.noConfusion
  dsimp only
  split
  · split
    · split
      · exact fits_error fun _ => Fault.noConfusion
      · split <;> exact fits_ok _
    · exact fits_ok _
  · exact fits_ok _

theorem fits_takeString (opened fuel : Nat) (acc cs : List Char) :
    Fits (takeString opened fuel acc cs) := by
  induction fuel generalizing acc cs with
  | zero => exact fits_error fun _ => Fault.noConfusion
  | succ fuel ih =>
    cases cs with
    | nil => exact fits_error fun _ => Fault.noConfusion
    | cons c rest =>
      unfold takeString
      split
      · exact fits_ok _
      split
      · split
        · exact fits_error fun _ => Fault.noConfusion
        · next more =>
          have hunicode := fits_takeUnicode more
          split
          · exact ih _ _
          · next e he =>
            rw [he] at hunicode
            exact fits_error (hunicode e rfl)
        · split
          · exact ih _ _
          · exact fits_error fun _ => Fault.noConfusion
      split
      · exact fits_error fun _ => Fault.noConfusion
      · exact ih _ _

theorem fits_takeNumber (negative : Bool) (cs : List Char) {r : Result Value}
    (h : takeNumber negative cs = some r) : Fits r := by
  unfold takeNumber at h
  dsimp only at h
  split at h
  · exact absurd h nofun
  · split at h
    · obtain rfl := Option.some.inj h
      exact fits_ok _
    · next f hf =>
      obtain rfl := Option.some.inj h
      refine fits_error fun c => ?_
      unfold numberValue at hf
      split at hf
      · split at hf
        · obtain rfl := Except.error.inj hf
          exact Fault.noConfusion
        · exact absurd hf nofun
      · exact absurd hf nofun

theorem fits_takeScalar (h : 0 < room) (cs : List Char) : Fits (takeScalar room cs) := by
  unfold takeScalar
  split
  · exact fits_ok _
  · rw [if_neg h.ne']
    exact fits_ok _
  · dsimp only
    have hnumber : ∀ n : Option (Result Value), (∀ r, n = some r → Fits r) →
        Fits (n.getD (fail .value cs)) := by
      intro n hn
      cases n with
      | none => exact fits_error fun _ => Fault.noConfusion
      | some r => exact hn r rfl
    apply hnumber
    intro r hr
    split at hr
    · exact fits_takeNumber _ _ hr
    · exact fits_takeNumber _ _ hr

/-- With so much room nothing ends for want of it. -/
def IsServed (enough : Nat) (take : Nat → List Char → Result α) : Prop :=
  ∀ room cs, enough ≤ room → Fits (take room cs)

theorem isServed_takeValue
    (hmembers : ∀ acc, IsServed (fuel + 3) fun room cs => takeMembers fuel room acc cs)
    (hitems : ∀ acc, IsServed (fuel + 3) fun room cs => takeItems fuel room acc cs) :
    IsServed (fuel + 1 + 3) (takeValue (fuel + 1)) := by
  intro room cs hroom
  unfold takeValue
  split
  · next rest =>
    have hstring : Fits (told room (takeString ('"' :: rest).length (rest.length + 1) [] rest)) :=
      fits_told (by omega) (fits_takeString _ _ _ _)
    split
    · next e he => exact fits_error (hstring e he)
    · exact fits_ok _
  · obtain ⟨room, rfl⟩ := Nat.exists_eq_succ_of_ne_zero (show room ≠ 0 by omega)
    dsimp only
    split
    · exact fits_ok _
    · exact hmembers _ _ _ (by omega)
  · obtain ⟨room, rfl⟩ := Nat.exists_eq_succ_of_ne_zero (show room ≠ 0 by omega)
    dsimp only
    split
    · exact fits_ok _
    · exact hitems _ _ _ (by omega)
  · exact fits_takeScalar (by omega) _

theorem isServed_takeMembers (hvalue : IsServed (fuel + 3) (takeValue fuel))
    (hmembers : ∀ acc, IsServed (fuel + 3) fun room cs => takeMembers fuel room acc cs)
    (acc : List (String × Value)) :
    IsServed (fuel + 1 + 3) fun room cs => takeMembers (fuel + 1) room acc cs := by
  intro room cs hroom
  have htold : ∀ fault rest, (∀ c, fault ≠ .noRoom c) →
      Fits (told room (fail fault rest : Result Value)) := fun fault rest hfault =>
    fits_told (by omega) (fits_error hfault)
  dsimp only
  unfold takeMembers
  split
  · next rest =>
    have hkey : Fits (told room (takeString ('"' :: rest).length (rest.length + 1) [] rest)) :=
      fits_told (by omega) (fits_takeString _ _ _ _)
    split
    · next e he => exact fits_error (hkey e he)
    split
    · next key _ _ _ more _ =>
      have hmember := hvalue room (skipSpaces more) (by omega)
      split
      · next e he => exact fits_error (hmember e he)
      split
      · exact fits_ok _
      · exact hmembers _ _ _ (by omega)
      · exact htold _ _ fun _ => Fault.noConfusion
    · exact htold _ _ fun _ => Fault.noConfusion
  · exact htold _ _ fun _ => Fault.noConfusion

theorem isServed_takeItems (hvalue : IsServed (fuel + 3) (takeValue fuel))
    (hitems : ∀ acc, IsServed (fuel + 3) fun room cs => takeItems fuel room acc cs)
    (acc : List Value) :
    IsServed (fuel + 1 + 3) fun room cs => takeItems (fuel + 1) room acc cs := by
  intro room cs hroom
  have hitem := hvalue room cs (by omega)
  dsimp only
  unfold takeItems
  split
  · next e he => exact fits_error (hitem e he)
  split
  · exact fits_ok _
  · exact hitems _ _ _ (by omega)
  · exact fits_told (by omega) (fits_error fun _ => Fault.noConfusion)

theorem isServed_take (fuel : Nat) : IsServed (fuel + 3) (takeValue fuel) ∧
    (∀ acc, IsServed (fuel + 3) fun room cs => takeMembers fuel room acc cs) ∧
    ∀ acc, IsServed (fuel + 3) fun room cs => takeItems fuel room acc cs := by
  induction fuel with
  | zero =>
    have hvalue : ∀ c, Fault.value ≠ .noRoom c := fun _ => Fault.noConfusion
    exact ⟨fun _ _ _ => fits_error hvalue, fun _ _ _ _ => fits_error hvalue,
      fun _ _ _ _ => fits_error hvalue⟩
  | succ fuel ih =>
    obtain ⟨hvalue, hmembers, hitems⟩ := ih
    exact ⟨isServed_takeValue hmembers hitems, isServed_takeMembers hvalue hmembers,
      isServed_takeItems hvalue hitems⟩

/-! What is left over -/

variable {β : Type}

theorem Fits.of_bind {r : Except Failure α} {next : α → Except Failure β} (h : Fits (r >>= next)) :
    Fits r := by
  rintro f rfl
  exact h f rfl

theorem Fits.of_within {r : Except Failure α} (h : Fits (r.mapError (Failure.within room))) :
    Fits r := by
  rintro f rfl c hc
  have hsame : f.within room = f := by
    rw [Failure.within, hc]
    exact if_pos (Nat.zero_le room)
  exact h (f.within room) rfl c (by rw [hsame, hc])

theorem fits_within {r : Except Failure α} (hroom : 3 ≤ room) (h : Fits r) :
    Fits (r.mapError (Failure.within room)) := by
  cases r with
  | ok a => exact fits_ok a
  | error f =>
    rw [Except.mapError, f.within_of_three_le hroom]
    exact h

theorem mapError_within_eq {r : Except Failure α} (hle : room ≤ room')
    (h : Fits (r.mapError (Failure.within room))) :
    r.mapError (Failure.within room') = r.mapError (Failure.within room) := by
  cases r with
  | ok a => rfl
  | error f => exact congrArg Except.error (Failure.within_eq f hle (h _ rfl))

theorem isDepth_ofFailure (cs : List Char) (f : Failure) :
    (Error.ofFailure cs f).isDepth = false ↔ ∀ c, f.fault ≠ .noRoom c := by
  obtain ⟨fault, left⟩ := f
  cases fault <;> simp [Error.isDepth, Error.ofFailure]

theorem fits_iff {r : Except Failure α} : Fits r ↔
    ∀ e, r.mapError (Error.ofFailure cs) = .error e → e.isDepth = false := by
  constructor
  · intro h e he
    cases r with
    | ok a => exact absurd he nofun
    | error f =>
      obtain rfl := Except.error.inj he
      exact (isDepth_ofFailure cs f).mpr (h f rfl)
  · rintro h f rfl
    exact (isDepth_ofFailure cs f).mp (h _ rfl)

end Reader

/-! Whole texts -/

open Reader (Fits Failure)

variable {room room' : Nat} {cs : List Char}

theorem parseChars_eq_readChars (cs : List Char) (room : Nat) : parseChars cs room =
    ((readChars cs room).mapError (Failure.within room)).mapError (Error.ofFailure cs) := by
  unfold parseChars
  cases readChars cs room <;> rfl

/-- Where the room was enough, more of it changes nothing. -/
theorem parseChars_eq_of_le (hle : room ≤ room')
    (h : ∀ e, parseChars cs room = .error e → e.isDepth = false) :
    parseChars cs room' = parseChars cs room := by
  rw [parseChars_eq_readChars] at h ⊢
  rw [parseChars_eq_readChars]
  have hfits := Reader.fits_iff.mpr h
  have hread : readChars cs room' = readChars cs room := by
    unfold readChars
    rw [(Reader.isStable_take _).1 _ _ _ hle hfits.of_within.of_bind]
  rw [hread, Reader.mapError_within_eq hle hfits]

theorem isDepth_false_of_length_le (hroom : 2 * cs.length + 5 ≤ room) {e : Error}
    (h : parseChars cs room = .error e) : e.isDepth = false := by
  rw [parseChars_eq_readChars] at h
  refine Reader.fits_iff.mp (Reader.fits_within (by omega) ?_) e h
  have hvalue := (Reader.isServed_take (2 * cs.length + 2)).1 room (Reader.skipSpaces cs) hroom
  unfold readChars
  cases hread : Reader.takeValue (2 * cs.length + 2) room (Reader.skipSpaces cs) with
  | error f => exact Reader.fits_error (hvalue f hread)
  | ok r =>
    dsimp only [bind, Except.bind]
    split
    · exact Reader.fits_ok _
    · exact Reader.fits_error fun _ => Fault.noConfusion

/-- Every text has a depth: with less room it is not read, and with as much it is. -/
theorem exists_depth (cs : List Char) : ∃ depth, ∀ room,
    (∃ e, parseChars cs room = .error e ∧ e.isDepth = true) ↔ room < depth := by
  classical
  let Enough (room : Nat) : Prop := ∀ e, parseChars cs room = .error e → e.isDepth = false
  have hexists : ∃ room, Enough room :=
    ⟨2 * cs.length + 5, fun e he => isDepth_false_of_length_le le_rfl he⟩
  refine ⟨Nat.find hexists, fun room => ?_⟩
  rw [← not_iff_not, not_lt]
  constructor
  · intro h
    refine Nat.find_min' hexists fun e he => Bool.eq_false_iff.mpr fun hd => h ⟨e, he, hd⟩
  · rintro hle ⟨e, he, hd⟩
    rw [parseChars_eq_of_le hle (Nat.find_spec hexists)] at he
    exact absurd hd (by rw [Nat.find_spec hexists e he]; exact Bool.false_ne_true)

end ContentBinding.Json
