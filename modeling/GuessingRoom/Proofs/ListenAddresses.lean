import Mathlib.Data.List.Infix
import GuessingRoom.Proofs.Digits
import GuessingRoom.Settings.Address

/-!
# Hosts and socket numbers

Four numbers of a byte in dotted form are read as the address they are (`Address.read?_writeFour`). Whatever
the host, the number after the last colon is the socket number (`Address.socket_of_read?`).
-/

namespace GuessingRoom

open Text Text.Decimal

namespace Text.Decimal

theorem length_write_le {n width : Nat} (pos : 0 < width) (small : n < 10 ^ width) :
    (write n).length ≤ width := by
  induction width generalizing n with
  | zero => exact absurd pos (Nat.lt_irrefl 0)
  | succ width ih =>
    rw [write]
    split
    · rw [List.length_singleton]
      exact pos
    · rename_i large
      have more : 0 < width := by
        rcases Nat.eq_zero_or_pos width with rfl | more
        · omega
        · exact more
      have := ih more (n := n / 10) (by rw [Nat.pow_succ] at small; omega)
      rw [List.length_append, List.length_singleton]
      omega

end Text.Decimal

namespace Address

/-! ## Digits -/

theorem digit?_ten (c : Char) : digit? 10 c = if isDigit c then some (digitValue c) else none := by
  unfold digit? Text.Hexadecimal.digitValue?
  by_cases digit : isDigit c = true
  · have range : '0' ≤ c ∧ c ≤ '9' := by simpa [isDigit] using digit
    have high : c.toNat ≤ 57 := (isDigit_iff.1 digit).2
    rw [if_pos range, if_pos digit, Option.filter_some, if_pos (by simp; omega)]
    rfl
  · have range : ¬ ('0' ≤ c ∧ c ≤ '9') := by simpa [isDigit] using digit
    rw [if_neg range, if_neg digit]
    split
    · rename_i small
      have low : 97 ≤ c.toNat := small.1
      rw [Option.filter_some, if_neg (by simp; omega)]
    · split
      · rename_i capital
        have low : 65 ≤ c.toNat := capital.1
        rw [Option.filter_some, if_neg (by simp; omega)]
      · rfl

theorem isSome_digit?_ten : (fun c => (digit? 10 c).isSome) = isDigit := by
  funext c
  rw [digit?_ten]
  cases isDigit c <;> rfl

theorem foldl_digits {ds : List Char} (digits : ∀ c ∈ ds, isDigit c = true) :
    ds.foldl (fun n d => 10 * n + (digit? 10 d).getD 0) 0 = value ds := by
  refine List.foldl_ext _ _ _ fun n d mem => ?_
  rw [digit?_ten, if_pos (digits d mem), Option.getD_some]

variable {ds rest : List Char}

theorem takeDigits_append {width : Option Nat} (digits : ∀ c ∈ ds, isDigit c = true) (ne : ds ≠ [])
    (fits : width.any (· < ds.length) = false) (stop : NoDigit rest) :
    takeDigits 10 width (ds ++ rest) = some (value ds, rest) := by
  unfold takeDigits
  rw [isSome_digit?_ten, takeWhile_isDigit digits stop]
  split
  · exact absurd rfl ne
  · rw [if_neg (by simp [fits]), foldl_digits digits, List.drop_left]

theorem of_takeDigits {base n : Nat} {width : Option Nat} {cs : List Char}
    (h : takeDigits base width cs = some (n, rest)) :
    rest = cs.drop (cs.takeWhile fun c => (digit? base c).isSome).length ∧
      n = (cs.takeWhile fun c => (digit? base c).isSome).foldl
        (fun n d => base * n + (digit? base d).getD 0) 0 := by
  unfold takeDigits at h
  split at h
  · cases h
  · split at h
    · cases h
    · cases h
      exact ⟨rfl, rfl⟩

/-! ## Addresses in dotted form -/

theorem takeOctet_write {n : Nat} (small : n < 256) (stop : NoDigit rest) :
    takeOctet (Decimal.write n ++ rest) = some (n, rest) := by
  have fits : (Decimal.write n).length ≤ 3 := length_write_le (by decide) (by omega)
  have taken : takeDigits 10 (some 3) (Decimal.write n ++ rest) = some (n, rest) := by
    rw [takeDigits_append (fun _ => isDigit_of_mem_write) (write_ne_nil n) (by simp; omega) stop,
      value_write]
  have leading : (n == 0 && (Decimal.write n ++ rest).length == rest.length + 1 ||
      n != 0 && (Decimal.write n ++ rest).head? != some '0') = true := by
    rcases Nat.eq_zero_or_pos n with rfl | pos
    · rw [Decimal.write]
      simp
    · have head := head?_write_ne_zero pos
      rw [List.head?_append_of_ne_nil _ (write_ne_nil n)]
      simp [head, Nat.ne_of_gt pos]
  unfold takeOctet
  rw [taken]
  simp only [Option.bind_eq_bind, Option.bind_some, decide_eq_true small, Bool.true_and]
  exact if_pos leading

theorem takeChar_cons (mark : Char) (rest : List Char) : takeChar mark (mark :: rest) = some rest :=
  if_pos rfl

theorem takeFour_writeFour {a b c d : Nat} (ha : a < 256) (hb : b < 256) (hc : c < 256) (hd : d < 256)
    (stop : NoDigit rest) : takeFour (writeFour a b c d ++ rest) = some ((a, b, c, d), rest) := by
  have dot (rest : List Char) : NoDigit ('.' :: rest) := noDigit_cons (by decide)
  unfold takeFour writeFour
  simp only [List.append_assoc, List.cons_append, takeOctet_write, dot, stop, ha, hb, hc, hd,
    takeChar_cons, Option.bind_eq_bind, Option.bind_some]

theorem takeSocket_write {n : Nat} (small : n < 65536) : takeSocket (':' :: Decimal.write n) = some (n, []) := by
  have taken : takeDigits 10 none (Decimal.write n ++ []) = some (value (Decimal.write n), []) :=
    takeDigits_append (fun _ => isDigit_of_mem_write) (write_ne_nil n) rfl noDigit_nil
  rw [List.append_nil, value_write] at taken
  simp only [takeSocket, takeChar_cons, taken, Option.bind_eq_bind, Option.bind_some]
  exact if_pos small

theorem read?_writeFour {a b c d n : Nat} (ha : a < 256) (hb : b < 256) (hc : c < 256) (hd : d < 256)
    (hn : n < 65536) : read? (writeFour a b c d ++ ':' :: Decimal.write n) = some ⟨.v4 a b c d, n⟩ := by
  have colon : NoDigit (':' :: Decimal.write n) := noDigit_cons (by decide)
  have four := takeFour_writeFour ha hb hc hd colon
  obtain ⟨e, more, text, digit⟩ : ∃ e more, writeFour a b c d ++ ':' :: Decimal.write n = e :: more ∧
      isDigit e = true := by
    obtain ⟨e, more, eq⟩ := List.exists_cons_of_ne_nil (write_ne_nil a)
    refine ⟨e, _, by rw [writeFour, eq]; rfl, isDigit_of_mem_write (n := a) ?_⟩
    rw [eq]
    exact List.mem_cons_self
  have host : takeHost (writeFour a b c d ++ ':' :: Decimal.write n) = some (.v4 a b c d, ':' :: Decimal.write n) := by
    rw [text] at four ⊢
    unfold takeHost
    split
    · rename_i same
      rw [(List.cons.inj same).1] at digit
      exact absurd digit (by decide)
    · rw [four]
      rfl
  simp only [read?, host, takeSocket_write hn, Option.bind_eq_bind, Option.bind_some]
  rfl

/-! ## The socket number of any address -/

section

variable {cs : List Char}

theorem takeDigits_suffix {base n : Nat} {width : Option Nat}
    (h : takeDigits base width cs = some (n, rest)) : rest <:+ cs := by
  rw [(of_takeDigits h).1]
  exact List.drop_suffix _ _

theorem eq_cons_of_takeChar {mark : Char} (h : takeChar mark cs = some rest) : cs = mark :: rest := by
  unfold takeChar at h
  split at h
  · split at h
    · rename_i same
      rw [same, Option.some.inj h]
    · cases h
  · cases h

theorem takeChar_suffix {mark : Char} (h : takeChar mark cs = some rest) : rest <:+ cs := by
  rw [eq_cons_of_takeChar h]
  exact List.suffix_cons _ _

theorem takeOctet_suffix {n : Nat} (h : takeOctet cs = some (n, rest)) : rest <:+ cs := by
  unfold takeOctet at h
  obtain ⟨⟨m, more⟩, taken, h⟩ := Option.bind_eq_some_iff.1 h
  dsimp only at h
  split at h
  · cases h
    exact takeDigits_suffix taken
  · cases h

theorem takeFour_suffix {four : Nat × Nat × Nat × Nat} (h : takeFour cs = some (four, rest)) :
    rest <:+ cs := by
  unfold takeFour at h
  simp only [Option.bind_eq_bind, Option.bind_eq_some_iff, Prod.exists, Option.some.injEq] at h
  obtain ⟨a, _, ha, _, dot, b, _, hb, _, dot', c, _, hc, _, dot'', d, _, hd, same⟩ := h
  cases same
  exact (takeOctet_suffix hd).trans ((takeChar_suffix dot'').trans ((takeOctet_suffix hc).trans
    ((takeChar_suffix dot').trans ((takeOctet_suffix hb).trans ((takeChar_suffix dot).trans
      (takeOctet_suffix ha))))))

theorem afterColon_suffix {first : Bool} (h : afterColon first cs = some rest) : rest <:+ cs := by
  unfold afterColon at h
  split at h
  · rw [Option.some.inj h]
  · exact takeChar_suffix h

theorem takeGroups_suffix (left : Nat) (first : Bool) (cs : List Char) :
    (takeGroups left first cs).2.2 <:+ cs := by
  induction left generalizing first cs with
  | zero => exact List.suffix_rfl
  | succ left ih =>
    rw [takeGroups]
    split
    · rename_i decimal
      split at decimal
      · cases decimal
      · obtain ⟨_, colon, four⟩ := Option.bind_eq_some_iff.1 decimal
        exact (takeFour_suffix four).trans (afterColon_suffix colon)
    · split
      · rename_i group
        obtain ⟨_, colon, digits⟩ := Option.bind_eq_some_iff.1 group
        exact (ih _ _).trans ((takeDigits_suffix digits).trans (afterColon_suffix colon))
      · exact List.suffix_rfl

theorem takeEight_suffix {groups : List Nat} (h : takeEight cs = some (groups, rest)) : rest <:+ cs := by
  have front := takeGroups_suffix 8 true cs
  unfold takeEight at h
  dsimp only at h
  split at h
  · cases h
    exact front
  · split at h
    · cases h
    · simp only [Option.bind_eq_bind, Option.bind_eq_some_iff, Option.some.injEq] at h
      obtain ⟨_, colon, _, colon', same⟩ := h
      cases same
      exact (takeGroups_suffix _ _ _).trans ((takeChar_suffix colon').trans
        ((takeChar_suffix colon).trans front))

theorem takeScope_suffix (cs : List Char) : (takeScope cs).2 <:+ cs := by
  unfold takeScope
  split
  · rename_i scope
    obtain ⟨_, percent, digits⟩ := Option.bind_eq_some_iff.1 scope
    split
    · exact (takeDigits_suffix digits).trans (takeChar_suffix percent)
    · exact List.suffix_rfl
  · exact List.suffix_rfl

theorem takeHost_suffix {host : Host} (h : takeHost cs = some (host, rest)) : rest <:+ cs := by
  unfold takeHost at h
  split at h
  · simp only [Option.bind_eq_bind, Option.bind_eq_some_iff, Prod.exists, Option.some.injEq] at h
    obtain ⟨_, _, eight, _, bracket, same⟩ := h
    cases same
    exact (takeChar_suffix bracket).trans ((takeScope_suffix _).trans ((takeEight_suffix eight).trans
      (List.suffix_cons _ _)))
  · obtain ⟨_, four, same⟩ := Option.map_eq_some_iff.1 h
    cases same
    exact takeFour_suffix four

/-- A socket number that goes to the end of the text has its digits after a colon. -/
theorem of_takeSocket {n : Nat} (h : takeSocket cs = some (n, [])) :
    ∃ ds, cs = ':' :: ds ∧ (∀ c ∈ ds, isDigit c = true) ∧ value ds = n := by
  unfold takeSocket at h
  simp only [Option.bind_eq_bind, Option.bind_eq_some_iff, Prod.exists] at h
  obtain ⟨ds, colon, m, more, taken, h⟩ := h
  split at h
  · cases h
    obtain ⟨none, val⟩ := of_takeDigits taken
    rw [isSome_digit?_ten] at none val
    have all : ds.takeWhile isDigit = ds :=
      (List.takeWhile_prefix _).eq_of_length_le (List.drop_eq_nil_iff.1 none.symm)
    have digits : ∀ c ∈ ds, isDigit c = true := by
      rw [← all]
      exact List.all_eq_true.1 List.all_takeWhile
    rw [all, foldl_digits digits] at val
    exact ⟨ds, eq_cons_of_takeChar colon, digits, val.symm⟩
  · cases h

end

theorem ne_colon_of_isDigit {c : Char} (h : isDigit c = true) : (c != ':') = true := by
  rw [bne_iff_ne]
  rintro rfl
  exact absurd h (by decide)

/-- What comes after the last colon of a text. -/
theorem after_last_colon {front front' ds ds' : List Char} (digits : ∀ c ∈ ds, isDigit c = true)
    (digits' : ∀ c ∈ ds', isDigit c = true) (h : front ++ ':' :: ds = front' ++ ':' :: ds') : ds = ds' := by
  have tail {front ds : List Char} (digits : ∀ c ∈ ds, isDigit c = true) :
      (front ++ ':' :: ds).reverse.takeWhile (· != ':') = ds.reverse := by
    rw [List.reverse_append, List.reverse_cons, List.append_assoc, List.takeWhile_append_of_pos
      fun c mem => ne_colon_of_isDigit (digits c (List.mem_reverse.1 mem))]
    simp
  have same := congrArg (fun cs => cs.reverse.takeWhile (· != ':')) h
  simp only [tail digits, tail digits'] at same
  exact List.reverse_injective same

theorem socket_of_read? {host : List Char} {n : Nat} {a : Address}
    (h : read? (host ++ ':' :: Decimal.write n) = some a) : a.socket = n := by
  unfold read? at h
  simp only [Option.bind_eq_bind, Option.bind_eq_some_iff, Prod.exists] at h
  obtain ⟨kind, cs, taken, socket, rest, number, h⟩ := h
  split at h
  · rename_i none
    rw [List.isEmpty_iff] at none
    subst none
    cases h
    obtain ⟨ds, rfl, digits, val⟩ := of_takeSocket number
    obtain ⟨front, text⟩ := takeHost_suffix taken
    rw [← val, after_last_colon digits (fun _ => isDigit_of_mem_write) text, value_write]
  · cases h

end Address

end GuessingRoom
