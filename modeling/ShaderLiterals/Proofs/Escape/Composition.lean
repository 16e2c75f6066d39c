import ShaderLiterals.Proofs.Escape.Fault

/-!
# Decoding a text behind another one

Where a text stands shows only in the offsets of its faults (`decodeFrom_add`).  So a text that can
be decoded may be cut off from what stands behind it, unless it ends in an octal escape that goes on
there (`decode_append_of_ok`).  A text that cannot be decoded stays so if the escape that stopped
the decoder was there as a whole (`decode_append_of_isWhole`); one that was cut short may be mended.
-/

namespace ShaderLiterals.Escape

/-- The fault if `n` more bytes stand before the text. -/
def Fault.shift (n : Nat) : Fault → Fault
  | escape offset cause => escape (offset + n) cause
  | trailingBackslash => trailingBackslash

/-- Whether the escape was there as a whole, so that nothing behind it belongs to it. -/
def Cause.IsWhole : Cause → Prop
  | invalidCodePoint _ | unknownName _ => True
  | truncated _ | malformedName => False

variable {names : Names} {front back : List Char}

theorem map_mapError {f : Fault → Fault} {g : List Char → List Char}
    (x : Except Fault (List Char)) : (x.mapError f).map g = (x.map g).mapError f := by
  cases x <;> rfl

/-- Where a text stands shows in the offsets of faults alone. -/
theorem decodeFrom_add (names : Names) (offset n : Nat) (text : List Char) :
    decodeFrom names (offset + n) text =
      (decodeFrom names offset text).mapError (Fault.shift n) := by
  induction offset, text using decodeFrom_induction names with
  | nil offset =>
      rw [decodeFrom_nil, decodeFrom_nil]
      rfl
  | lone offset =>
      rw [decodeFrom_lone, decodeFrom_lone]
      rfl
  | fault offset letter rest cause hread =>
      rw [decodeFrom_fault hread, decodeFrom_fault hread]
      rfl
  | escape offset letter more tail value hread ih =>
      rw [decodeFrom_escape hread, decodeFrom_escape hread, Nat.add_right_comm, ih, map_mapError]
  | plain offset c rest hc ih =>
      rw [decodeFrom_plain hc, decodeFrom_plain hc, Nat.add_right_comm, ih, map_mapError]

/-- Behind a text that can be decoded, another one is decoded as if it stood alone. -/
theorem decode_append_of_ok {s : List Char} (h : decode names front = .ok s)
    (hback : ∀ c ∈ back.head?, c ∉ octalDigits) :
    decode names (front ++ back) =
      ((decode names back).mapError (Fault.shift (byteLength front))).map (s ++ ·) := by
  rw [decode, decodeFrom_append_of_ok h hback, decodeFrom_add, decode]

theorem Faulty.append {cause : Cause} {after : List Char} (h : Faulty names cause after)
    (hcause : cause.IsWhole) (more : List Char) : Faulty names cause (after ++ more) := by
  cases h with
  | truncated | unopened | nameless | unclosed => exact hcause.elim
  | invalidCodePoint form digits rest value hform hlen hdigits hvalue =>
      rw [List.cons_append, List.append_assoc]
      exact .invalidCodePoint form digits _ value hform hlen hdigits hvalue
  | unknownName name rest hne hbrace hname =>
      rw [List.cons_append, List.cons_append, List.append_assoc, List.cons_append]
      exact .unknownName name _ hne hbrace hname

/-- Nothing behind it mends an escape that was there as a whole. -/
theorem decode_append_of_isWhole {offset : Nat} {cause : Cause}
    (h : decode names front = .error (.escape offset cause)) (hcause : cause.IsWhole)
    (back : List Char) :
    decode names (front ++ back) = .error (.escape offset cause) := by
  obtain ⟨before, after, s, rfl, hbefore, hstops⟩ := decode_eq_error_iff.1 h
  cases hstops with
  | escape hfaulty =>
      rw [List.append_assoc, List.cons_append, decode_append_backslash_eq_error_iff]
      exact ⟨⟨s, hbefore⟩, hfaulty.append hcause back⟩

/-- Texts are decoded one behind the other: behind one that can be decoded, another one that begins
with no octal digit gives what it gives alone, and its faults stand as many bytes further on as the
first text has.  An escape of the first text that is no character, or has an unknown name, is
reported whatever comes behind. -/
theorem decode_append (names : Names) (front back : List Char) :
    (∀ s, decode names front = .ok s → (∀ c ∈ back.head?, c ∉ octalDigits) →
        (∀ u, decode names back = .ok u → decode names (front ++ back) = .ok (s ++ u)) ∧
        (∀ offset cause, decode names back = .error (.escape offset cause) →
          decode names (front ++ back) = .error (.escape (offset + byteLength front) cause)) ∧
        (decode names back = .error .trailingBackslash →
          decode names (front ++ back) = .error .trailingBackslash)) ∧
      (∀ offset value, decode names front = .error (.escape offset (.invalidCodePoint value)) →
        decode names (front ++ back) = .error (.escape offset (.invalidCodePoint value))) ∧
      ∀ offset name, decode names front = .error (.escape offset (.unknownName name)) →
        decode names (front ++ back) = .error (.escape offset (.unknownName name)) := by
  refine ⟨fun s hfront hback => ?_, fun offset value h => ?_, fun offset name h => ?_⟩
  · have happend := decode_append_of_ok hfront hback
    refine ⟨fun u hu => ?_, fun offset cause hfault => ?_, fun hlone => ?_⟩
    · rw [happend, hu]
      rfl
    · rw [happend, hfault]
      rfl
    · rw [happend, hlone]
      rfl
  · exact decode_append_of_isWhole h trivial back
  · exact decode_append_of_isWhole h trivial back

/-- An escape that is no character, behind a text of six bytes and before it. -/
theorem decode_append_surrogate :
    let names : Names := fun _ => none
    let front := "é\\x41".toList
    let back := "\\uD800".toList
    decode names front = .ok "éA".toList ∧ (∀ c ∈ back.head?, c ∉ octalDigits) ∧
      decode names back = .error (.escape 0 (.invalidCodePoint 0xD800)) ∧
      decode names (front ++ back) = .error (.escape 6 (.invalidCodePoint 0xD800)) ∧
      decode names (back ++ front) = .error (.escape 0 (.invalidCodePoint 0xD800)) := by
  intro names front back
  have hfront : decode names front = .ok "éA".toList := by decide +kernel
  have hhead : ∀ c ∈ back.head?, c ∉ octalDigits := by
    intro c hc
    obtain rfl : '\\' = c := Option.some.inj hc
    decide
  have hback : decode names back = .error (.escape 0 (.invalidCodePoint 0xD800)) := by
    decide +kernel
  obtain ⟨hcut, -⟩ := decode_append names front back
  obtain ⟨-, hlasting, -⟩ := decode_append names back front
  exact ⟨hfront, hhead, hback, (hcut _ hfront hhead).2.1 _ _ hback, hlasting _ _ hback⟩

/-- An octal escape takes a digit that stands behind it. -/
example : decode (fun _ => none) ("\\1".toList ++ "2".toList) = .ok ['\n'] := by decide +kernel

end ShaderLiterals.Escape
