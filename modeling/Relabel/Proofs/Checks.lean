import Relabel.Naming.Lookups

/-!
# Checks in turn

Checks that are made one after the other succeed just when each of them does. A run makes them
between its lookups, where they ask nothing.
-/

namespace Relabel

variable {f : α → Except ε β}

theorem bind_eq_ok {x : Except ε α} : (x >>= f) = .ok b ↔ ∃ a, x = .ok a ∧ f a = .ok b := by
  cases x with
  | error e =>
    constructor
    · intro h
      cases h
    · rintro ⟨a, h, -⟩
      cases h
  | ok a => exact ⟨fun h => ⟨a, rfl, h⟩, fun ⟨_, ha, h⟩ => Except.ok.inj ha ▸ h⟩

theorem bind_eq_error {x : Except ε α} :
    (x >>= f) = .error e ↔ x = .error e ∨ ∃ a, x = .ok a ∧ f a = .error e := by
  cases x with
  | error e' =>
    constructor
    · intro h
      cases h
      exact .inl rfl
    · rintro (h | ⟨a, h, -⟩)
      · cases h
        rfl
      · cases h
  | ok a =>
    constructor
    · intro h
      exact .inr ⟨a, rfl, h⟩
    · rintro (h | ⟨a', ha, h⟩)
      · cases h
      · cases ha
        exact h

theorem map_eq_ok {g : α → β} {x : Except ε α} : g <$> x = .ok b ↔ ∃ a, x = .ok a ∧ g a = b := by
  rw [map_eq_pure_bind, bind_eq_ok]
  exact exists_congr fun a => and_congr_right fun _ => ⟨Except.ok.inj, congrArg Except.ok⟩

theorem mapM_eq_ok {items : List α} {bs : List β} :
    items.mapM f = .ok bs ↔ items.map f = bs.map .ok := by
  induction items generalizing bs with
  | nil =>
    rw [List.mapM_nil, List.map_nil]
    exact ⟨fun h => Except.ok.inj h ▸ rfl, fun h => List.map_eq_nil_iff.mp h.symm ▸ rfl⟩
  | cons a items ih =>
    rw [List.mapM_cons, bind_eq_ok]
    constructor
    · rintro ⟨b, hb, htail⟩
      obtain ⟨rest, hrest, hpure⟩ := bind_eq_ok.mp htail
      cases hpure
      rw [List.map_cons, hb, ih.mp hrest, List.map_cons]
    · intro hmap
      cases bs with
      | nil => simp at hmap
      | cons b bs =>
        obtain ⟨hb, hbs⟩ := List.cons.inj hmap
        exact ⟨b, hb, bind_eq_ok.mpr ⟨bs, ih.mpr hbs, rfl⟩⟩

theorem exists_mem_of_mapM_eq_error {items : List α} (h : items.mapM f = .error e) :
    ∃ a ∈ items, f a = .error e := by
  induction items with
  | nil => cases h
  | cons a items ih =>
    rw [List.mapM_cons] at h
    rcases bind_eq_error.mp h with ha | ⟨b, -, htail⟩
    · exact ⟨a, by simp, ha⟩
    · rcases bind_eq_error.mp htail with hrest | ⟨bs, -, hpure⟩
      · obtain ⟨a', ha', herror⟩ := ih hrest
        exact ⟨a', by simp [ha'], herror⟩
      · cases hpure

theorem exists_mem_of_mapM_eq_ok {items : List α} {bs : List β} (h : items.mapM f = .ok bs)
    (ha : a ∈ items) : ∃ b ∈ bs, f a = .ok b := by
  have hmem : f a ∈ bs.map .ok := mapM_eq_ok.mp h ▸ List.mem_map_of_mem ha
  obtain ⟨b, hb, heq⟩ := List.mem_map.mp hmem
  exact ⟨b, hb, heq.symm⟩

theorem mem_iff_of_mapM_eq_ok {items : List α} {bs : List β} (h : items.mapM f = .ok bs) :
    b ∈ bs ↔ ∃ a ∈ items, f a = .ok b := by
  have hmap := mapM_eq_ok.mp h
  constructor
  · intro hb
    have hmem : Except.ok b ∈ items.map f := hmap ▸ List.mem_map_of_mem hb
    exact List.mem_map.mp hmem
  · rintro ⟨a, ha, hb⟩
    obtain ⟨b', hb', heq⟩ := exists_mem_of_mapM_eq_ok h ha
    exact Except.ok.inj (heq.symm.trans hb) ▸ hb'

theorem eq_ok_of_mem_zip {items : List α} {bs : List β} (h : items.map f = bs.map .ok)
    (hw : w ∈ items.zip bs) : f w.1 = .ok w.2 := by
  obtain ⟨i, hi⟩ := List.mem_iff_getElem?.mp hw
  obtain ⟨hitem, hb⟩ := List.getElem?_zip_eq_some.mp hi
  have hmap := congrArg (·[i]?) h
  simpa [hitem, hb] using hmap

theorem exists_map_eq_ok {items : List α} (h : ∀ a ∈ items, ∃ b, f a = .ok b) :
    ∃ bs : List β, items.map f = bs.map .ok := by
  induction items with
  | nil => exact ⟨[], rfl⟩
  | cons a items ih =>
    obtain ⟨⟨b, hb⟩, hitems⟩ := List.forall_mem_cons.mp h
    obtain ⟨bs, hbs⟩ := ih hitems
    exact ⟨b :: bs, by rw [List.map_cons, hb, hbs, List.map_cons]⟩

/-- A check that needs what the one before it has brought may as well wait until that one has been
made for all items. -/
theorem map_bind_eq_ok {f : α → β → Except ε γ} {g : α → γ → Except ε δ} {keys : List α}
    {items : List β} {outcomes : List δ} (hlength : items.length = keys.length) :
    (keys.zip items).map (fun w => f w.1 w.2 >>= g w.1) = outcomes.map .ok ↔
      ∃ middles : List γ, (keys.zip items).map (fun w => f w.1 w.2) = middles.map .ok ∧
        (keys.zip middles).map (fun w => g w.1 w.2) = outcomes.map .ok := by
  induction keys generalizing items outcomes with
  | nil => simp
  | cons key keys ih =>
    obtain ⟨item, items, rfl⟩ := List.exists_cons_of_length_eq_add_one hlength
    have hlength : items.length = keys.length := by simpa using hlength
    constructor
    · intro h
      cases outcomes with
      | nil => simp at h
      | cons outcome outcomes =>
        obtain ⟨hfirst, hrest⟩ := List.cons.inj h
        -- Both checks of the first item have gone well, so the second one may be put off.
        obtain ⟨middle, hmiddle, houtcome⟩ := bind_eq_ok.mp hfirst
        obtain ⟨middles, hmiddles, houtcomes⟩ := (ih hlength).mp hrest
        exact ⟨middle :: middles, List.cons_eq_cons.mpr ⟨hmiddle, hmiddles⟩,
          List.cons_eq_cons.mpr ⟨houtcome, houtcomes⟩⟩
    · rintro ⟨middles, hmiddles, houtcomes⟩
      cases middles with
      | nil => simp at hmiddles
      | cons middle middles =>
        obtain ⟨hmiddle, hmiddles⟩ := List.cons.inj hmiddles
        cases outcomes with
        | nil => simp at houtcomes
        | cons outcome outcomes =>
          obtain ⟨houtcome, houtcomes⟩ := List.cons.inj houtcomes
          exact List.cons_eq_cons.mpr ⟨bind_eq_ok.mpr ⟨middle, hmiddle, houtcome⟩,
            (ih hlength).mpr ⟨middles, hmiddles, houtcomes⟩⟩

namespace Lookups

theorem answers_mapM_lift {f : α → Except RunError β} {items : List α} {bs : List β} :
    (items.mapM fun a => (liftM (f a) : Lookups β)).Answers log bs log' ↔
      items.map f = bs.map .ok ∧ log = log' := by
  induction items generalizing log log' bs with
  | nil => simp [eq_comm]
  | cons a items ih =>
    rw [List.mapM_cons, answers_bind]
    constructor
    · rintro ⟨b, middle, hlift, htail⟩
      -- A check takes no note, so the notes are passed on as they are.
      obtain ⟨hb, rfl⟩ := answers_lift.mp hlift
      obtain ⟨rest, middle', htail, hpure⟩ := answers_bind.mp htail
      obtain ⟨hrest, rfl⟩ := ih.mp htail
      obtain ⟨rfl, rfl⟩ := answers_pure.mp hpure
      exact ⟨by rw [List.map_cons, hb, hrest, List.map_cons], rfl⟩
    · rintro ⟨hmap, rfl⟩
      cases bs with
      | nil => simp at hmap
      | cons b bs =>
        obtain ⟨hb, hbs⟩ := List.cons.inj hmap
        exact ⟨b, log, answers_lift.mpr ⟨hb, rfl⟩,
          answers_bind.mpr ⟨bs, log, ih.mpr ⟨hbs, rfl⟩, answers_pure.mpr ⟨rfl, rfl⟩⟩⟩

end Lookups

end Relabel
