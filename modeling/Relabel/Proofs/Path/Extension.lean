import Relabel.Path.Extension
import Relabel.Proofs.Path.Clean

/-!
# Extensions that stay

An extension that is put behind a text is the extension of the whole, as long as the last component
of the text is not empty. Cleaning and trimming leave it at the end, where the last component holds
more than white space and the extension ends in something else than that.
-/

namespace Relabel

namespace Path

open Text (pieces joinWith)

-- ---------------------------------------------------------------------------
-- The last component
-- ---------------------------------------------------------------------------

private theorem takeWhile_ne_append (c : Char) (front back : Text) :
    (front ++ c :: back).takeWhile (· ≠ c) = front.takeWhile (· ≠ c) := by
  induction front with
  | nil => simp
  | cons d ds ih => simp only [List.cons_append, List.takeWhile_cons, ih]

private theorem takeWhile_ne_of_not_mem {c : Char} {text : Text} (h : c ∉ text) :
    text.takeWhile (· ≠ c) = text :=
  List.takeWhile_eq_self_iff.mpr fun d hd => by simpa using ne_of_mem_of_not_mem hd h

private theorem lastComponent_append_slash (front text : Text) :
    lastComponent (front ++ '/' :: text) = lastComponent text := by
  have hreverse : (front ++ '/' :: text).reverse = text.reverse ++ '/' :: front.reverse := by simp
  rw [lastComponent, hreverse, takeWhile_ne_append]
  rfl

theorem slash_not_mem_lastComponent (text : Text) : '/' ∉ lastComponent text := by
  intro h
  have hne := List.mem_takeWhile_imp (List.mem_reverse.mp h)
  simp at hne

theorem lastComponent_append (h : '/' ∉ back) (text : Text) :
    lastComponent (text ++ back) = lastComponent text ++ back := by
  have hall : ∀ c ∈ back.reverse, decide (c ≠ '/') = true := by
    intro c hc
    simpa using ne_of_mem_of_not_mem (List.mem_reverse.mp hc) h
  rw [lastComponent, List.reverse_append, List.takeWhile_append_of_pos hall, List.reverse_append,
    List.reverse_reverse]
  rfl

private theorem lastComponent_joinWith (h : '/' ∉ last) (names : List Text) :
    lastComponent (joinWith '/' (names ++ [last])) = last := by
  induction names with
  | nil => exact lastComponent_append h []
  | cons name names ih =>
    rw [List.cons_append, Text.joinWith_cons (by simp), lastComponent_append_slash, ih]

theorem lastComponent_of_pieces (h : pieces '/' text = names ++ [last]) :
    lastComponent text = last := by
  have hlast : '/' ∉ last := Text.not_mem_of_mem_pieces (show last ∈ pieces '/' text by simp [h])
  rw [← Text.joinWith_pieces '/' text, h, lastComponent_joinWith hlast]

theorem mem_lastComponent_of_cons {c d : Char} (h : d ∈ lastComponent (c :: text)) (hne : d ≠ c) :
    d ∈ lastComponent text := by
  by_cases hslash : '/' ∈ text
  · obtain ⟨front, back, rfl⟩ := List.append_of_mem hslash
    rw [← List.cons_append, lastComponent_append_slash] at h
    rwa [lastComponent_append_slash]
  · have hmem : d ∈ c :: text :=
      List.mem_reverse.mp ((List.takeWhile_sublist _).mem (List.mem_reverse.mp h))
    rw [← List.nil_append text, lastComponent_append hslash]
    exact (List.mem_cons.mp hmem).resolve_left hne

-- ---------------------------------------------------------------------------
-- Extensions
-- ---------------------------------------------------------------------------

theorem extension_append (hlast : lastComponent front ≠ []) (hdot : '.' ∉ rest)
    (hslash : '/' ∉ rest) : extension (front ++ '.' :: rest) = '.' :: rest := by
  have hback : '/' ∉ '.' :: rest := by simp [hslash]
  have hsuffix : (lastComponent front ++ '.' :: rest).reverse.takeWhile (· ≠ '.') = rest.reverse := by
    have hreverse : (lastComponent front ++ '.' :: rest).reverse =
        rest.reverse ++ '.' :: (lastComponent front).reverse := by simp
    rw [hreverse, takeWhile_ne_append, takeWhile_ne_of_not_mem (by simpa using hdot)]
  have hpos : 0 < (lastComponent front).length := List.length_pos_iff.mpr hlast
  have hlength : extensionLength (front ++ '.' :: rest) = rest.length + 1 := by
    rw [extensionLength, lastComponent_append hback, hsuffix, if_pos (by simp; omega),
      List.length_reverse]
  rw [extension, hlength]
  simp

theorem exists_of_extension (h : extension name ≠ []) :
    ∃ rest, extension name = '.' :: rest ∧ '.' ∉ rest ∧ '/' ∉ rest := by
  have hlong : ((lastComponent name).reverse.takeWhile (· ≠ '.')).length + 1 <
      (lastComponent name).length := by
    by_contra hnot
    refine h ?_
    rw [extension, extensionLength, if_neg hnot]
    simp
  have hmem : '.' ∈ (lastComponent name).reverse := by
    by_contra hnot
    rw [takeWhile_ne_of_not_mem hnot, List.length_reverse] at hlong
    omega
  -- The first dot from behind is the one that the extension starts with.
  obtain ⟨back, front, hsplit, hdot⟩ := List.eq_append_cons_of_mem hmem
  have hlast : lastComponent name = front.reverse ++ '.' :: back.reverse := by
    rw [← List.reverse_reverse (lastComponent name), hsplit]
    simp
  have hslash : '/' ∉ front.reverse ++ '.' :: back.reverse :=
    hlast ▸ slash_not_mem_lastComponent name
  have hfront : front ≠ [] := by
    rintro rfl
    rw [hsplit, takeWhile_ne_append, takeWhile_ne_of_not_mem hdot, hlast] at hlong
    simp at hlong
  have hname : name =
      ((name.reverse.dropWhile (· ≠ '/')).reverse ++ front.reverse) ++ '.' :: back.reverse := by
    rw [List.append_assoc, ← hlast, lastComponent, ← List.reverse_append,
      List.takeWhile_append_dropWhile, List.reverse_reverse]
  have hbackSlash : '/' ∉ back.reverse := fun hmem =>
    hslash (List.mem_append_right _ (List.mem_cons_of_mem _ hmem))
  refine ⟨back.reverse, ?_, by simpa using hdot, hbackSlash⟩
  rw [hname]
  refine extension_append ?_ (by simpa using hdot) hbackSlash
  rw [lastComponent_append fun hmem => hslash (List.mem_append_left _ hmem)]
  simp [hfront]

-- ---------------------------------------------------------------------------
-- Cleaning and trimming
-- ---------------------------------------------------------------------------

/-- The last component of the text holds more than white space. -/
def IsSolid (text : Text) : Prop := ∃ c ∈ lastComponent text, isBlank c = false

-- A search through the component; there is one through all characters, too.
instance (text : Text) : Decidable (IsSolid text) :=
  List.decidableBEx (fun c => isBlank c = false) (lastComponent text)

theorem IsSolid.trimStart (h : IsSolid text) : IsSolid text.trimStart := by
  -- Each blank that goes may have been part of the last component, but not the solid part.
  induction text with
  | nil => exact h
  | cons c cs ih =>
    cases hc : isBlank c with
    | false => simpa [Text.trimStart, hc] using h
    | true =>
      obtain ⟨d, hd, hblank⟩ := h
      have hne : d ≠ c := by
        rintro rfl
        rw [hc] at hblank
        cases hblank
      simpa [Text.trimStart, hc] using ih ⟨d, mem_lastComponent_of_cons hd hne, hblank⟩

theorem IsSolid.lastComponent_ne_nil (h : IsSolid text) : lastComponent text ≠ [] := by
  obtain ⟨c, hc, -⟩ := h
  exact List.ne_nil_of_mem hc

private theorem joinWith_concat_append (names : List Text) (last back : Text) :
    joinWith '/' (names ++ [last ++ back]) = joinWith '/' (names ++ [last]) ++ back := by
  induction names with
  | nil => rfl
  | cons name names ih =>
    simp only [List.cons_append, Text.joinWith_cons (show names ++ [_] ≠ [] by simp), ih,
      List.append_assoc]

theorem pushPiece_of_length (h : 2 < piece.length) :
    pushPiece rooted names piece = piece :: names := by
  have hne {short : Text} (hshort : short.length ≤ 2) : piece ≠ short := by
    rintro rfl
    omega
  have hidle : isIdle piece = false := by
    simp [isIdle, hne (show ([] : Text).length ≤ 2 by decide),
      hne (show (['.'] : Text).length ≤ 2 by decide)]
  unfold pushPiece
  rw [if_neg (by simp [hidle]), if_neg (hne (by decide))]

theorem exists_clean_append (hsolid : IsSolid front) (hrest : rest ≠ []) (hslash : '/' ∉ rest) :
    ∃ base, clean (front ++ '.' :: rest) = base ++ '.' :: rest ∧ IsSolid base := by
  obtain ⟨names, last, hpieces⟩ := Text.exists_pieces_eq_concat '/' front
  obtain rfl : lastComponent front = last := lastComponent_of_pieces hpieces
  have hback : '/' ∉ '.' :: rest := by simp [hslash]
  have hlength : 2 < (lastComponent front ++ '.' :: rest).length := by
    have hlast := List.length_pos_iff.mpr hsolid.lastComponent_ne_nil
    have hpos := List.length_pos_iff.mpr hrest
    rw [List.length_append, List.length_cons]
    omega
  let rooted := isRooted (front ++ '.' :: rest)
  let kept := (names.foldl (pushPiece rooted) []).reverse
  -- The names before the last one may be dropped or consumed; that one goes on the stack at the end.
  have hkept : cleanNames (front ++ '.' :: rest) = kept ++ [lastComponent front ++ '.' :: rest] := by
    rw [cleanNames, Text.pieces_extend hback hpieces, List.foldl_append, List.foldl_cons,
      List.foldl_nil, pushPiece_of_length hlength, List.reverse_cons]
  have hsolidJoin : IsSolid (joinWith '/' (kept ++ [lastComponent front])) := by
    rw [IsSolid, lastComponent_joinWith (slash_not_mem_lastComponent front)]
    exact hsolid
  rw [clean, hkept, joinWith_concat_append]
  split
  · refine ⟨'/' :: joinWith '/' (kept ++ [lastComponent front]), rfl, ?_⟩
    rw [IsSolid, ← List.nil_append ('/' :: _), lastComponent_append_slash]
    exact hsolidJoin
  · rw [if_neg (by simp)]
    exact ⟨_, rfl, hsolidJoin⟩

theorem trim_append (hsolid : IsSolid base) (hne : back ≠ []) (hback : Text.trimEnd back = back) :
    Text.trim (base ++ back) = Text.trimStart base ++ back := by
  -- Trimming stops within `base` on the one side and at once on the other.
  have hstart : base.dropWhile isBlank ≠ [] := by
    intro hnil
    have hlast := hsolid.trimStart.lastComponent_ne_nil
    rw [Text.trimStart, hnil] at hlast
    exact hlast rfl
  have hend : back.reverse.dropWhile isBlank = back.reverse := by
    rw [← List.reverse_inj, List.reverse_reverse]
    exact hback
  rw [Text.trim, Text.trimStart, List.dropWhile_append, if_neg (by simpa using hstart), Text.trimEnd,
    List.reverse_append, List.dropWhile_append, hend, if_neg (by simpa using hne)]
  simp [Text.trimStart]

/-- More than a dot, and no white space at the end. -/
def IsFirm (e : Text) : Prop := e ≠ [] ∧ e ≠ ['.'] ∧ Text.trimEnd e = e

instance (e : Text) : Decidable (IsFirm e) := by
  unfold IsFirm
  infer_instance

/-- A firm extension behind a solid text is the extension of what is recorded. -/
theorem extension_trim_clean (hfirm : IsFirm (extension name)) (hsolid : IsSolid front) :
    extension (Text.trim (clean (front ++ extension name))) = extension name := by
  obtain ⟨hne, hdot, htrimmed⟩ := hfirm
  obtain ⟨rest, heq, hnoDot, hnoSlash⟩ := exists_of_extension hne
  rw [heq] at hdot htrimmed ⊢
  have hrest : rest ≠ [] := fun hnil => hdot (by rw [hnil])
  obtain ⟨base, hbase, hbaseSolid⟩ := exists_clean_append hsolid hrest hnoSlash
  rw [hbase, trim_append hbaseSolid (List.cons_ne_nil '.' rest) htrimmed]
  exact extension_append hbaseSolid.trimStart.lastComponent_ne_nil hnoDot hnoSlash

end Path

end Relabel
