import RemoteOps.Ecma.Json

/-!
# Readers that normalise

A reader converts what it is given and may refuse it. It normalises when a result that is
written back is read as itself: `write` says where a result is written and `Accepted` which
results there are. What is read twice is then read once.
-/

namespace Ecma

structure Normalises {α β ε : Type} (write : β → α) (Accepted : β → Prop)
    (read : α → Except ε β) : Prop where
  accepted : ∀ {x b}, read x = .ok b → Accepted b
  fixed : ∀ {b}, Accepted b → read (write b) = .ok b

/-- `if (!b) throw e`. -/
def ensure {ε : Type} (b : Bool) (e : ε) : Except ε Unit :=
  if b then .ok () else .error e

theorem ensure_true {ε α : Type} {b : Bool} {e : ε} (h : b = true) (f : Unit → Except ε α) :
    (ensure b e >>= f) = f () := by rw [ensure, if_pos h, ok_bind]

/-- What follows a check has passed it. -/
theorem ensure_bind_eq_ok {ε α : Type} {b : Bool} {e : ε} {f : Unit → Except ε α} {y : α}
    (h : (ensure b e >>= f) = .ok y) : b = true ∧ f () = .ok y := by
  cases b with
  | false => cases h
  | true => exact ⟨rfl, h⟩

namespace Normalises

variable {α β γ ε : Type} {write : β → α} {Accepted : β → Prop} {read : α → Except ε β}

theorem idem (h : Normalises write Accepted read) {x : α} {b : β} (hx : read x = .ok b) :
    read (write b) = .ok b := h.fixed (h.accepted hx)

/-- A reader of part of what it could read. -/
theorem precomp {f : γ → α} {write : β → γ}
    (h : Normalises (fun b => f (write b)) Accepted read) :
    Normalises write Accepted fun x => read (f x) :=
  ⟨fun hx => h.accepted hx, fun hb => h.fixed hb⟩

/-- A reader whose result is put into a constructor. -/
theorem wrap (h : Normalises write Accepted read) {g : β → γ} {write' : γ → α}
    (hwrite : ∀ b, write' (g b) = write b) :
    Normalises write' (fun c => ∃ b, Accepted b ∧ c = g b) fun x => g <$> read x where
  accepted {x c} hx := by
    obtain ⟨b, hb, hc⟩ := bind_eq_ok ((map_eq_pure_bind g (read x)).symm.trans hx)
    exact ⟨b, h.accepted hb, (Except.ok.inj hc).symm⟩
  fixed {c} hc := by
    obtain ⟨b, hb, rfl⟩ := hc
    rw [hwrite, h.fixed hb]
    rfl

/-- The elements of a list, one after the other. -/
theorem mapM (h : Normalises write Accepted read) :
    Normalises (List.map write) (fun bs => ∀ b ∈ bs, Accepted b) fun xs => xs.mapM read where
  accepted {xs bs} hxs := by
    induction xs generalizing bs with
    | nil =>
        rw [List.mapM_nil] at hxs
        rw [← Except.ok.inj hxs]
        exact List.forall_mem_nil _
    | cons x xs ih =>
        rw [List.mapM_cons] at hxs
        obtain ⟨b, hb, hxs⟩ := bind_eq_ok hxs
        obtain ⟨bs', hbs, hxs⟩ := bind_eq_ok hxs
        rw [← Except.ok.inj hxs]
        exact List.forall_mem_cons.mpr ⟨h.accepted hb, ih hbs⟩
  fixed {bs} hbs := by
    induction bs with
    | nil => rfl
    | cons b bs ih =>
        obtain ⟨hb, hbs⟩ := List.forall_mem_cons.mp hbs
        rw [List.map_cons, List.mapM_cons, h.fixed hb, ok_bind, ih hbs]
        rfl

/-- A conversion and a check of what it returns. -/
theorem of_ensure {convert : α → Except ε β} {p : β → Bool} {e : ε}
    (hconvert : ∀ b, convert (write b) = .ok b) :
    Normalises write (fun b => p b = true) fun x => do
      let b ← convert x
      ensure (p b) e
      return b where
  accepted {x b} hx := by
    obtain ⟨b', -, hx⟩ := bind_eq_ok hx
    obtain ⟨hp, hx⟩ := ensure_bind_eq_ok hx
    rwa [← Except.ok.inj hx]
  fixed {b} hb := by
    rw [hconvert, ok_bind, ensure_true hb]
    rfl

/-- The same with a second conversion that does nothing when it is repeated. -/
theorem of_ensure_idem {convert : α → Except ε β} {f : β → β} {p : β → Bool} {e : ε}
    (hconvert : ∀ b, convert (write b) = .ok b) (hf : ∀ b, f (f b) = f b) :
    Normalises write (fun b => p b = true ∧ f b = b) fun x => do
      let b ← convert x
      ensure (p (f b)) e
      return f b where
  accepted {x b} hx := by
    obtain ⟨b', -, hx⟩ := bind_eq_ok hx
    obtain ⟨hp, hx⟩ := ensure_bind_eq_ok hx
    rw [← Except.ok.inj hx]
    exact ⟨hp, hf b'⟩
  fixed {b} hb := by
    obtain ⟨hp, hfb⟩ := hb
    rw [hconvert, ok_bind, hfb, ensure_true hp]
    rfl

end Normalises

theorem length_of_mapM {α β ε : Type} {read : α → Except ε β} {xs : List α} {bs : List β}
    (h : xs.mapM read = .ok bs) : bs.length = xs.length := by
  induction xs generalizing bs with
  | nil =>
      rw [List.mapM_nil] at h
      rw [← Except.ok.inj h]
      rfl
  | cons x xs ih =>
      rw [List.mapM_cons] at h
      obtain ⟨b, -, h⟩ := bind_eq_ok h
      obtain ⟨bs', hbs, h⟩ := bind_eq_ok h
      rw [← Except.ok.inj h, List.length_cons, List.length_cons, ih hbs]

end Ecma
