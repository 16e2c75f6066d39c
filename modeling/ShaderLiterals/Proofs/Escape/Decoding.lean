import ShaderLiterals.Proofs.Escape.Reading

/-!
# Decoding piece by piece

A text is decoded one plain character or one escape at a time: `decodeFrom` has one equation for
each kind of piece, and `decodeFrom_induction` is the induction over the pieces.  Inert text behind
a text is decoded after it (`decodeFrom_append_of_inert`), unless a lone backslash takes it up.
-/

namespace ShaderLiterals.Escape

variable {names : Names} {offset : Nat}

@[simp] theorem decodeFrom_nil : decodeFrom names offset [] = .ok [] := by
  rw [decodeFrom]

theorem decodeFrom_lone : decodeFrom names offset ['\\'] = .error .trailingBackslash := by
  rw [decodeFrom]

theorem decodeFrom_plain {c : Char} (h : c ≠ '\\') (rest : List Char) :
    decodeFrom names offset (c :: rest) =
      (decodeFrom names (offset + c.utf8Size) rest).map (c :: ·) := by
  rw [decodeFrom]
  · exact fun hc => absurd hc h
  · exact fun _ _ hc => absurd hc h

theorem decodeFrom_fault {letter : Char} {rest : List Char} {cause : Cause}
    (h : read names letter rest = .error cause) :
    decodeFrom names offset ('\\' :: letter :: rest) = .error (.escape offset cause) := by
  rw [decodeFrom, h]

theorem decodeFrom_escape {letter : Char} {more tail value : List Char}
    (h : read names letter (more ++ tail) = .ok ⟨more, value⟩) :
    decodeFrom names offset ('\\' :: letter :: (more ++ tail)) =
      (decodeFrom names (offset + byteLength ('\\' :: letter :: more)) tail).map
        (value ++ ·) := by
  have hlen : offset + 1 + letter.utf8Size + byteLength more =
      offset + byteLength ('\\' :: letter :: more) := by
    rw [byteLength_cons, byteLength_cons, show '\\'.utf8Size = 1 from rfl]
    omega
  rw [decodeFrom, h]
  dsimp only
  rw [List.drop_left, hlen]

/-- Induction over the pieces of a text: an escape that is read goes over to what it leaves. -/
@[elab_as_elim]
theorem decodeFrom_induction (names : Names) {motive : Nat → List Char → Prop}
    (nil : ∀ offset, motive offset [])
    (lone : ∀ offset, motive offset ['\\'])
    (fault : ∀ offset letter rest cause, read names letter rest = .error cause →
      motive offset ('\\' :: letter :: rest))
    (escape : ∀ offset letter more tail value,
      read names letter (more ++ tail) = .ok ⟨more, value⟩ →
      motive (offset + byteLength ('\\' :: letter :: more)) tail →
      motive offset ('\\' :: letter :: (more ++ tail)))
    (plain : ∀ offset c rest, c ≠ '\\' → motive (offset + c.utf8Size) rest →
      motive offset (c :: rest)) (offset : Nat) (text : List Char) : motive offset text := by
  induction hn : text.length using Nat.strong_induction_on generalizing offset text with
  | h n ih =>
      subst hn
      rcases text with _ | ⟨c, rest⟩
      · exact nil offset
      · by_cases hc : c = '\\'
        · subst hc
          rcases rest with _ | ⟨letter, rest⟩
          · exact lone offset
          · cases h : read names letter rest with
            | error cause => exact fault offset letter rest cause h
            | ok e =>
                obtain ⟨tail, rfl⟩ := read_more_prefix h
                refine escape offset letter e.more tail e.value h (ih _ ?_ _ _ rfl)
                simp only [List.length_cons, List.length_append]
                omega
        · exact plain offset c rest hc (ih _ (Nat.lt_succ_self _) _ _ rfl)

/-! ## What is put in front -/

section Front

variable {f : List Char → List Char} {x : Except Fault (List Char)}

theorem exists_of_map_eq_ok {s : List Char} (h : x.map f = .ok s) : ∃ u, x = .ok u ∧ f u = s := by
  cases x with
  | error fault => cases h
  | ok u => exact ⟨u, rfl, Except.ok.inj h⟩

theorem eq_error_of_map_eq_error {fault : Fault} (h : x.map f = .error fault) :
    x = .error fault := by
  cases x with
  | error fault' => exact congrArg Except.error (Except.error.inj h)
  | ok u => cases h

end Front

/-- Putting text in front commutes with putting text behind. -/
theorem map_bind_append (v : List Char) (x y : Except Fault (List Char)) :
    (x >>= fun s => y.map (s ++ ·)).map (v ++ ·) =
      x.map (v ++ ·) >>= fun s => y.map (s ++ ·) := by
  cases x with
  | error fault => rfl
  | ok s =>
      cases y with
      | error fault => rfl
      | ok u => exact congrArg Except.ok (List.append_assoc v s u).symm

/-- Text that no escape takes up is decoded on its own. -/
theorem decodeFrom_append_of_inert {extra : List Char} (h : ∀ c ∈ extra, Inert c) (text : List Char)
    (hne : decodeFrom names offset text ≠ .error .trailingBackslash) :
    decodeFrom names offset (text ++ extra) =
      decodeFrom names offset text >>= fun s =>
        (decodeFrom names (offset + byteLength text) extra).map (s ++ ·) := by
  induction offset, text using decodeFrom_induction names with
  | nil offset =>
      rw [decodeFrom_nil, List.nil_append, byteLength_nil, Nat.add_zero]
      cases decodeFrom names offset extra <;> rfl
  | lone offset => exact absurd decodeFrom_lone hne
  | fault offset letter rest cause hread =>
      rw [List.cons_append, List.cons_append, decodeFrom_fault hread,
        decodeFrom_fault ((read_append_of_inert h).trans hread)]
      rfl
  | escape offset letter more tail value hread ih =>
      have hread' : read names letter (more ++ (tail ++ extra)) = .ok ⟨more, value⟩ := by
        rw [← List.append_assoc, read_append_of_inert h, hread]
      rw [decodeFrom_escape hread] at hne ⊢
      rw [List.cons_append, List.cons_append, List.append_assoc, decodeFrom_escape hread',
        ih fun htail => hne (by rw [htail]; rfl), map_bind_append, Nat.add_assoc,
        ← byteLength_append]
      rfl
  | plain offset c rest hc ih =>
      rw [decodeFrom_plain hc] at hne ⊢
      rw [List.cons_append, decodeFrom_plain hc, ih fun htail => hne (by rw [htail]; rfl),
        byteLength_cons, ← Nat.add_assoc]
      exact map_bind_append [c] _ _

end ShaderLiterals.Escape
