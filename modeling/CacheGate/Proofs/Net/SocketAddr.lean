import CacheGate.Net.SocketAddr
import CacheGate.Proofs.Text.Cutting
import CacheGate.Proofs.Text.Decimal

/-!
# Ports of socket addresses

Every reader leaves a suffix of what it was given, so the port of an address
is read off the end of its text. Digits have no colon: the port is the number
behind the last colon, whatever is in front of it (`parse?_port`).
-/

namespace CacheGate.Net.SocketAddr

/-- The port of an address. -/
def port : SocketAddr → Nat
  | v4 _ port | v6 _ _ port => port

variable {cs rest : List Char} {c : Char} {n : Nat}

/-! ## What readers leave -/

theorem number?_suffix {base high : Nat} {width : Option Nat} {zeros : Bool}
    (read : number? base high width zeros cs = some (n, rest)) : rest <:+ cs := by
  unfold number? at read
  dsimp only at read
  split at read
  · cases read
  · rw [← (Prod.mk.inj (Option.some.inj read)).2]
    exact List.drop_suffix _ _

theorem eq_cons_of_char? (read : char? c cs = some rest) : cs = c :: rest := by
  cases cs with
  | nil => cases read
  | cons d cs =>
    change (if d = c then some cs else none) = some rest at read
    split at read
    case isTrue same => rw [same, Option.some.inj read]
    case isFalse => cases read

theorem char?_suffix (read : char? c cs = some rest) : rest <:+ cs := by
  rw [eq_cons_of_char? read]
  exact List.suffix_cons c rest

theorem ipv4?_suffix {octets : List Nat} (read : ipv4? cs = some (octets, rest)) : rest <:+ cs := by
  unfold ipv4? octet? at read
  simp only [Option.bind_eq_bind, Option.bind_eq_some_iff] at read
  obtain ⟨⟨_, _⟩, first, _, dot, ⟨_, _⟩, second, _, dot', ⟨_, _⟩, third, _, dot'', ⟨_, _⟩, fourth,
    same⟩ := read
  rw [← (Prod.mk.inj (Option.some.inj same)).2]
  exact (number?_suffix fourth).trans ((char?_suffix dot'').trans ((number?_suffix third).trans
    ((char?_suffix dot').trans ((number?_suffix second).trans ((char?_suffix dot).trans
      (number?_suffix first))))))

theorem separator?_suffix {first : Bool} (read : separator? first cs = some rest) :
    rest <:+ cs := by
  cases first with
  | true => exact Option.some.inj read ▸ List.suffix_refl cs
  | false => exact char?_suffix read

/-- A group is read off the front, and the later groups off what it leaves. -/
theorem groups?_suffix (first : Bool) (limit : Nat) (cs : List Char) :
    (groups? first limit cs).2.2 <:+ cs := by
  induction limit generalizing first cs with
  | zero => exact List.suffix_refl _
  | succ limit ih =>
    unfold groups?
    split
    case h_1 octets rest read =>
      split at read
      · cases read
      · obtain ⟨behind, separated, read⟩ := Option.bind_eq_some_iff.1 read
        exact (ipv4?_suffix read).trans (separator?_suffix separated)
    case h_2 =>
      split
      case h_1 group rest read =>
        obtain ⟨behind, separated, read⟩ := Option.bind_eq_some_iff.1 read
        exact (ih false rest).trans ((number?_suffix read).trans (separator?_suffix separated))
      case h_2 => exact List.suffix_refl _

theorem ipv6?_suffix {groups : List Nat} (read : ipv6? cs = some (groups, rest)) : rest <:+ cs := by
  have left := groups?_suffix true 8 cs
  unfold ipv6? at read
  generalize groups? true 8 cs = found at read left
  obtain ⟨head, dotted, behind⟩ := found
  dsimp only at read left
  split at read
  · rw [← (Prod.mk.inj (Option.some.inj read)).2]
    exact left
  · split at read
    · cases read
    · simp only [Option.bind_eq_bind, Option.bind_eq_some_iff] at read
      obtain ⟨_, colon, _, colon', same⟩ := read
      rw [← (Prod.mk.inj (Option.some.inj same)).2]
      exact (groups?_suffix true _ _).trans ((char?_suffix colon').trans
        ((char?_suffix colon).trans left))

theorem scope?_suffix {scope : Nat} (read : scope? cs = some (scope, rest)) : rest <:+ cs := by
  unfold scope? at read
  split at read
  · exact (number?_suffix read).trans (List.suffix_cons _ _)
  · exact (Prod.mk.inj (Option.some.inj read)).2 ▸ List.suffix_refl cs

/-! ## The port -/

/-- A number that leaves nothing is all digits, and has their value. -/
theorem eq_of_number?_all {high : Nat} {width : Option Nat} {zeros : Bool}
    (read : number? 10 high width zeros cs = some (n, [])) :
    (∀ c ∈ cs, (digit? 10 c).isSome = true) ∧
      n = cs.foldl (fun n c => n * 10 + (digit? 10 c).getD 0) 0 := by
  unfold number? at read
  dsimp only at read
  split at read
  · cases read
  · obtain ⟨value, behind⟩ := Prod.mk.inj (Option.some.inj read)
    have whole : cs.takeWhile (fun c => (digit? 10 c).isSome) = cs :=
      (List.takeWhile_prefix _).eq_of_length_le (List.drop_eq_nil_iff.1 behind)
    rw [whole] at value
    have passed := List.all_takeWhile (p := fun c => (digit? 10 c).isSome) (l := cs)
    rw [whole] at passed
    exact ⟨List.all_eq_true.1 passed, value.symm⟩

theorem digit?_of_isDigit (digit : c.isDigit = true) : digit? 10 c = some (c.toNat - 48) := by
  have bounds := Text.toNat_of_isDigit digit
  have small : c.toNat - 48 < 10 := by omega
  unfold digit?
  rw [if_pos digit]
  exact if_pos small

theorem foldl_digits (n : Nat) :
    (Text.digits n).foldl (fun n c => n * 10 + (digit? 10 c).getD 0) 0 = n := by
  have value : Nat.ofDigitChars 10 (Text.digits n) 0 = n :=
    Nat.ofDigitChars_toDigits (by decide) (Nat.le_refl 10)
  rw [Nat.ofDigitChars_eq_foldl] at value
  refine Eq.trans (List.foldl_ext _ _ 0 fun sofar c member => ?_) value
  rw [digit?_of_isDigit (Text.isDigit_of_mem_digits member), Nat.mul_comm]
  rfl

/-- The part behind the last colon does not depend on how the text is cut. -/
theorem behind_last_colon {front front' behind behind' : List Char} (plain : ':' ∉ behind)
    (plain' : ':' ∉ behind') (same : front ++ ':' :: behind = front' ++ ':' :: behind') :
    behind = behind' := by
  have turned := congrArg List.reverse same
  simp only [List.reverse_append, List.reverse_cons, List.append_assoc, List.singleton_append]
    at turned
  have cut : Text.cut? ':' (behind.reverse ++ ':' :: front.reverse) =
      some (behind.reverse, front.reverse) :=
    Text.cut?_append fun member => plain (List.mem_reverse.1 member)
  rw [turned, Text.cut?_append fun member => plain' (List.mem_reverse.1 member)] at cut
  exact List.reverse_inj.1 (Prod.mk.inj (Option.some.inj cut)).1.symm

theorem port?_eq {front host : List Char} {stated found : Nat}
    (read : port? cs = some (found, [])) (suffix : cs <:+ front)
    (whole : front = host ++ ':' :: Text.digits stated) : found = stated := by
  unfold port? at read
  obtain ⟨digits, colon, number⟩ := Option.bind_eq_some_iff.1 read
  obtain ⟨ofDigits, rfl⟩ := eq_of_number?_all number
  obtain ⟨before, same⟩ := suffix
  rw [eq_cons_of_char? colon, whole] at same
  have plain : ':' ∉ digits := fun member => Bool.noConfusion (ofDigits _ member)
  have plain' : ':' ∉ Text.digits stated := fun member =>
    Bool.noConfusion (Text.isDigit_of_mem_digits member)
  rw [behind_last_colon plain plain' same, foldl_digits]

/-- An address that is read from a host and a port has that port. -/
theorem parse?_port {host : String} {stated : Nat} {address : SocketAddr}
    (read : parse? (host ++ ":" ++ Text.natText stated) = some address) :
    address.port = stated := by
  have whole : (host ++ ":" ++ Text.natText stated).toList =
      host.toList ++ ':' :: Text.digits stated := by
    have digits : (Text.natText stated).toList = Text.digits stated := String.toList_ofList
    rw [String.toList_append, String.toList_append, digits, List.append_assoc]
    rfl
  unfold parse? at read
  generalize (host ++ ":" ++ Text.natText stated).toList = text at read whole
  obtain ⟨⟨found, rest⟩, either, complete⟩ := Option.bind_eq_some_iff.1 read
  dsimp only at complete
  split at complete
  case isFalse => cases complete
  case isTrue nothing =>
    obtain rfl := Option.some.inj complete
    obtain rfl := List.isEmpty_iff.1 nothing
    rw [Option.orElse_eq_orElse, Option.orElse_eq_or] at either
    rcases Option.or_eq_some_iff.1 either with short | ⟨-, long⟩
    · unfold v4? at short
      simp only [Option.bind_eq_bind, Option.bind_eq_some_iff] at short
      obtain ⟨⟨octets, _⟩, host, ⟨port, _⟩, last, same⟩ := short
      obtain ⟨rfl, rfl⟩ := Prod.mk.inj (Option.some.inj same)
      exact port?_eq last (ipv4?_suffix host) whole
    · unfold v6? at long
      simp only [Option.bind_eq_bind, Option.bind_eq_some_iff] at long
      obtain ⟨_, opened, ⟨groups, _⟩, host, ⟨scope, _⟩, zone, _, closed, ⟨port, _⟩, last, same⟩ :=
        long
      obtain ⟨rfl, rfl⟩ := Prod.mk.inj (Option.some.inj same)
      exact port?_eq last ((char?_suffix closed).trans ((scope?_suffix zone).trans
        ((ipv6?_suffix host).trans (char?_suffix opened)))) whole

end CacheGate.Net.SocketAddr
