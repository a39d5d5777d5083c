import SwapCompiler.Proofs.TokenWords

/-!
# The dex call under any flag

A dex call is checked in a fixed order: the token whose balance is checked, if the flag asks for
one, the words of the two amounts, if it inserts them, then the size of the data and the positions
that were found. The call is made if nothing of this fails, and what fails first is what it is
refused for (`Assembly.dexCall_ends_iff`).
-/

namespace SwapCompiler

namespace Plan

section Dex

variable (network : Network) (leg : Leg) (template : CallTemplate) (flag : Flag) (src dest : Nat)

/-- The patch points of a dex call; zero where the flag asks for none. -/
noncomputable def points : Patch.Points where
  fromAmount :=
    if flag.val % 4 = 2 ∨ flag.val % 4 = 3 then
      Bytes.firstOffset (Bytes.ofNat 32 src) (dexData leg template)
    else 0
  toAmount :=
    if flag.val % 4 = 2 ∨ flag.val % 4 = 3 then
      Bytes.firstOffset (Bytes.ofNat 32 dest) (dexData leg template)
    else 0
  balanceCheck :=
    if flag.val % 3 = 2 then
      Bytes.firstOffset (balanceToken network leg) (dexData leg template) - 12
    else 0

/-- What is looked for in the call data. -/
noncomputable def searches : List Check :=
  [⟨flag.val % 3 = 2 ∧ ¬ Bytes.Occurs (balanceToken network leg) (dexData leg template),
      Refusal.patternNotFound "balance check token" (balanceToken network leg)⟩,
    ⟨flag.val % 3 = 2 ∧ Bytes.firstOffset (balanceToken network leg) (dexData leg template) < 12,
      Refusal.outsideWord (Bytes.firstOffset (balanceToken network leg) (dexData leg template))⟩,
    ⟨(flag.val % 4 = 2 ∨ flag.val % 4 = 3) ∧
        ¬ Bytes.Occurs (Bytes.ofNat 32 src) (dexData leg template),
      Refusal.patternNotFound "source amount" (Bytes.ofNat 32 src)⟩,
    ⟨(flag.val % 4 = 2 ∨ flag.val % 4 = 3) ∧
        ¬ Bytes.Occurs (Bytes.ofNat 32 dest) (dexData leg template),
      Refusal.patternNotFound "destination amount" (Bytes.ofNat 32 dest)⟩]

/-- What has to fit the header of a call. -/
def narrowings (data : Bytes) (points : Patch.Points) : List Check :=
  [⟨2 ^ 32 ≤ data.length, Refusal.headerOverflow "calldata_size" data.length 4⟩,
    ⟨2 ^ 16 ≤ points.fromAmount, Refusal.headerOverflow "from_amount_pos" points.fromAmount 2⟩,
    ⟨2 ^ 16 ≤ points.balanceCheck,
      Refusal.headerOverflow "balance_check_pos" points.balanceCheck 2⟩,
    ⟨2 ^ 16 ≤ points.toAmount, Refusal.headerOverflow "to_amount_pos" points.toAmount 2⟩]

/-- What is checked of a dex call, in this order. -/
noncomputable def dexChecks : List Check :=
  searches network leg template flag src dest ++
    narrowings (dexData leg template) (points network leg template flag src dest)

/-- The dex call with its patch points. -/
noncomputable def patchedDex : Call where
  target := template.target.bytes
  fromAmountPos := .ofNat (points network leg template flag src dest).fromAmount
  balanceCheckPos := .ofNat (points network leg template flag src dest).balanceCheck
  toAmountPos := .ofNat (points network leg template flag src dest).toAmount
  specialDex := template.specialDex
  flag := .ofNat flag.val
  data := dexData leg template

/-- A position that is not asked for is zero and fits. -/
theorem ite_lt_iff {condition : Prop} [Decidable condition] {position : Nat} :
    (if condition then position else 0) < 2 ^ 16 ↔ (condition → position < 2 ^ 16) := by
  by_cases asked : condition
  · rw [if_pos asked, forall_prop_of_true asked]
  · rw [if_neg asked]
    exact ⟨fun _ h => absurd h asked, fun _ => by decide⟩

/-- When nothing that is checked fails. -/
theorem dexChecks_pass_iff :
    (∀ check ∈ dexChecks network leg template flag src dest, ¬ check.fails) ↔
      (dexData leg template).length < 2 ^ 32 ∧
      (flag.val % 3 = 2 →
        Bytes.Occurs (balanceToken network leg) (dexData leg template) ∧
        12 ≤ Bytes.firstOffset (balanceToken network leg) (dexData leg template) ∧
        Bytes.firstOffset (balanceToken network leg) (dexData leg template) < 2 ^ 16 + 12) ∧
      (flag.val % 4 = 2 ∨ flag.val % 4 = 3 →
        (Bytes.Occurs (Bytes.ofNat 32 src) (dexData leg template) ∧
          Bytes.firstOffset (Bytes.ofNat 32 src) (dexData leg template) < 2 ^ 16) ∧
        Bytes.Occurs (Bytes.ofNat 32 dest) (dexData leg template) ∧
          Bytes.firstOffset (Bytes.ofNat 32 dest) (dexData leg template) < 2 ^ 16) := by
  simp only [dexChecks, searches, narrowings, points, List.forall_mem_append,
    List.forall_mem_cons, List.not_mem_nil, false_imp_iff, implies_true, and_true, not_and,
    not_not, not_lt, not_le, ite_lt_iff]
  constructor
  · rintro ⟨⟨present, late, srcPresent, destPresent⟩, size, source, balance, destination⟩
    refine ⟨size, fun checks => ⟨present checks, late checks, ?_⟩, fun inserts =>
      ⟨⟨srcPresent inserts, source inserts⟩, destPresent inserts, destination inserts⟩⟩
    have fits := balance checks
    omega
  · rintro ⟨size, balance, amounts⟩
    refine ⟨⟨fun checks => (balance checks).1, fun checks => (balance checks).2.1,
      fun inserts => (amounts inserts).1.1, fun inserts => (amounts inserts).2.1⟩, size,
      fun inserts => (amounts inserts).1.2, fun checks => ?_, fun inserts => (amounts inserts).2.2⟩
    have fits := (balance checks).2.2
    omega

/-- The header of the dex call. -/
noncomputable def dexHeader : Bytes :=
  template.target.bytes ++ Bytes.ofNat 4 (dexData leg template).length ++
    Bytes.ofNat 2 (points network leg template flag src dest).fromAmount ++
    Bytes.ofNat 2 (points network leg template flag src dest).balanceCheck ++
    Bytes.ofNat 2 (points network leg template flag src dest).toAmount ++
    [template.specialDex] ++ Bytes.ofNat 2 flag.val

theorem length_dexHeader : (dexHeader network leg template flag src dest).length = 33 := by
  simp [dexHeader, Bytes.length_ofNat]

end Dex

end Plan

/-! ## The checks of the single steps -/

theorem Header.fit_decides (width : Int) (wide : 0 ≤ width) (value : Nat) (field : String) :
    Decides [⟨Bytes.capacity width.toNat ≤ value, Refusal.headerOverflow field value width⟩]
      (fit value width field) value := by
  have fits : Bytes.fits width.toNat value = true ↔ ¬ Bytes.capacity width.toNat ≤ value := by
    rw [Bytes.fits_iff, Nat.not_le]
  rw [fit, if_neg (by omega), if_neg (by omega), Int.toNat_natCast]
  refine ⟨fun large => ?_, fun small => ?_⟩
  · rw [if_neg fun h => fits.mp h large]
  · exact if_pos (fits.mpr small)

namespace Patch

theorem find_decides (data pattern : Bytes) (label : String) :
    Decides [⟨¬ Bytes.Occurs pattern data, Refusal.patternNotFound label pattern⟩]
      (find data pattern label) (Bytes.firstOffset pattern data) :=
  ⟨fun absent => find_of_absent absent label,
    fun occurs => find_of_isFirst (Bytes.Occurs.isFirst (not_not.mp occurs)) label⟩

theorem balanceOffset_decides {token : String} (length : (Address.bytesOf token).length = 20)
    (data : Bytes) :
    Decides
      [⟨¬ Bytes.Occurs (Address.bytesOf token) data,
          Refusal.patternNotFound "balance check token" (Address.bytesOf token)⟩,
        ⟨Bytes.firstOffset (Address.bytesOf token) data < 12,
          Refusal.outsideWord (Bytes.firstOffset (Address.bytesOf token) data)⟩]
      (balanceOffset data token) (Bytes.firstOffset (Address.bytesOf token) data - 12) := by
  refine ⟨fun absent => balanceOffset_of_none length (Bytes.firstIndex?_of_absent absent),
    fun occurs => ?_⟩
  have first := Bytes.firstIndex?_eq_some.mpr (Bytes.Occurs.isFirst (not_not.mp occurs))
  rw [balanceOffset_of_some length first]
  exact ⟨fun early => if_pos early, fun late => if_neg late⟩

theorem amounts_decide {src dest : Nat} (srcFits : src < 2 ^ 256) (destFits : dest < 2 ^ 256)
    (data : Bytes) (balanceCheck : Nat) :
    Decides
      [⟨¬ Bytes.Occurs (Bytes.ofNat 32 src) data,
          Refusal.patternNotFound "source amount" (Bytes.ofNat 32 src)⟩,
        ⟨¬ Bytes.Occurs (Bytes.ofNat 32 dest) data,
          Refusal.patternNotFound "destination amount" (Bytes.ofNat 32 dest)⟩]
      (do
        let fromAmount ← find data (← Abi.word src) "source amount"
        let toAmount ← find data (← Abi.word dest) "destination amount"
        return Points.mk fromAmount toAmount balanceCheck)
      ⟨Bytes.firstOffset (Bytes.ofNat 32 src) data, Bytes.firstOffset (Bytes.ofNat 32 dest) data,
        balanceCheck⟩ := by
  have most : Abi.maxWord + 1 = 2 ^ 256 := by decide +kernel
  rw [Call.word_natCast (by omega), Call.word_natCast (by omega), Outcome.ok_bind]
  refine (find_decides data _ _).bind ?_
  rw [Outcome.ok_bind]
  exact (find_decides data _ _).bind rfl

theorem resolve_decides {network : Network} (strict : network.Strict) (leg : Leg)
    (template : CallTemplate) (flag : Flag) {src dest : Nat} (srcFits : src < 2 ^ 256)
    (destFits : dest < 2 ^ 256) :
    Decides (Plan.searches network leg template flag src dest)
      (resolve (Plan.dexData leg template) flag.toInt
        (if network.isNative leg.destToken.text then network.wrappedNative
          else leg.destToken.text) src dest)
      (Plan.points network leg template flag src dest) := by
  have length := Plan.length_balanceToken strict leg
  have checks : Flag.balanceCheck flag.toInt = .destToken ↔ flag.val % 3 = 2 := by
    rw [Plan.balanceCheck_eq_destToken, Plan.checksToken, beq_iff_eq]
  have inserts : Flag.insertsAmount flag.toInt = true ↔ flag.val % 4 = 2 ∨ flag.val % 4 = 3 := by
    revert flag
    decide
  rw [Plan.balanceToken_eq] at length
  rw [Plan.searches, Plan.points, Plan.balanceToken_eq]
  simp only [resolve, checks, inserts]
  rw [Outcome.ite_bind]
  refine Decides.bind (Decides.onlyIf 0 fun _ => balanceOffset_decides length _) ?_
  have points (condition : Prop) [Decidable condition] (source destination balance : Nat) :
      (⟨if condition then source else 0, if condition then destination else 0, balance⟩ : Points) =
        if condition then ⟨source, destination, balance⟩ else ⟨0, 0, balance⟩ := by
    split <;> rfl
  rw [points]
  exact Decides.onlyIf _ fun _ => amounts_decide srcFits destFits _ _

end Patch

namespace Call

/-- The target, the special byte and the flag always fit. -/
theorem make_decides (target : Address) (data : Bytes) (points : Patch.Points) (special : UInt8)
    (flag : Flag) :
    Decides (Plan.narrowings data points)
      (make target.text data points.fromAmount points.balanceCheck special.toNat flag.toInt
        points.toAmount)
      ⟨target.bytes, .ofNat points.fromAmount, .ofNat points.balanceCheck, .ofNat points.toAmount,
        special, .ofNat flag.val, data⟩ := by
  have specialFits : Header.fit special.toNat 1 "special_dex" = .ok special.toNat :=
    Header.fit_eq_ok.mpr ⟨⟨by omega, by decide, toNat_lt_capacity_one special⟩, rfl⟩
  have flagFits : Header.fit flag.toInt 2 "flag" = .ok flag.val :=
    Header.fit_eq_ok.mpr ⟨⟨by simp [Flag.toInt], by decide,
      Nat.lt_trans flag.isLt (by decide)⟩, rfl⟩
  rw [make, Address.decode_text, Outcome.ok_bind]
  refine Decides.bind (Header.fit_decides 4 (by decide) data.length "calldata_size") ?_
  refine Decides.bind (Header.fit_decides 2 (by decide) points.fromAmount "from_amount_pos") ?_
  refine Decides.bind (Header.fit_decides 2 (by decide) points.balanceCheck "balance_check_pos") ?_
  refine Decides.bind (Header.fit_decides 2 (by decide) points.toAmount "to_amount_pos") ?_
  rw [specialFits, Outcome.ok_bind, flagFits, Outcome.ok_bind, if_pos target.length_bytes]
  simp [Decides]

end Call

namespace Assembly

variable {network : Network} {leg : Leg} {src dest : Nat}

theorem dexCall_decides (strict : network.Strict) (readSrc : Amount.value leg.srcAmount = .ok src)
    (srcFits : src < 2 ^ 256) (readDest : Amount.value leg.destAmount = .ok dest)
    (destFits : dest < 2 ^ 256) (template : CallTemplate) (flag : Flag) :
    Decides (Plan.dexChecks network leg template flag src dest)
      (dexCall network leg template flag)
      (Plan.patchedDex network leg template flag src dest) := by
  simp only [dexCall, HexData.bytes_eq, Patch.embedToken_eq, Outcome.ok_bind, readSrc, readDest]
  exact (Patch.resolve_decides strict leg template flag srcFits destFits).bind
    (Call.make_decides _ _ _ _ _)

/-- What a dex call with its patch points is written as. -/
theorem encode_patchedDex {template : CallTemplate} {flag : Flag}
    (passed : ∀ check ∈ Plan.dexChecks network leg template flag src dest, ¬ check.fails) :
    (Plan.patchedDex network leg template flag src dest).encode =
      Plan.dexHeader network leg template flag src dest ++ Plan.dexData leg template := by
  simp only [Plan.dexChecks, Plan.narrowings, List.forall_mem_append, List.forall_mem_cons,
    not_le] at passed
  obtain ⟨-, -, source, balance, destination, -⟩ := passed
  have position {value : Nat} (small : value < 2 ^ 16) : (UInt16.ofNat value).toNat = value :=
    UInt16.toNat_ofNat_of_lt' small
  simp only [Call.encode, Plan.patchedDex, Plan.dexHeader, position source, position balance,
    position destination, position (Nat.lt_trans flag.isLt (by decide : 12 < 2 ^ 16))]
  simp [Bytes.ofNat]

end Assembly

/-! ## The main statement -/

namespace Sample

/-- A selector, the word of the token and the words of both amounts. -/
def fullData : Bytes :=
  [0x12, 0x34, 0x56, 0x78] ++ Plan.tokenWord token.bytes ++ Bytes.ofNat 32 1000 ++
    Bytes.ofNat 32 999

def fullTemplate : CallTemplate := ⟨exchange, .ofBytes fullData, true, false, 0⟩

end Sample

namespace Assembly

/-- On strict addresses and readable amounts a dex call is made exactly if the data is below 4 GiB,
a token whose balance is checked is found from byte twelve on and not too far behind, and amounts
that are inserted are found, not too far behind either. It is then the data behind a header of 33
bytes with these positions; and otherwise it is refused for what fails first. -/
theorem dexCall_ends_iff {network : Network} {leg : Leg} {src dest : Nat}
    (strict : network.Strict)
    (readSrc : Amount.value leg.srcAmount = .ok src) (srcFits : src < 2 ^ 256)
    (readDest : Amount.value leg.destAmount = .ok dest) (destFits : dest < 2 ^ 256)
    (template : CallTemplate) (flag : Flag) :
    ((∃ call, dexCall network leg template flag = .ok call) ↔
      (Plan.dexData leg template).length < 2 ^ 32 ∧
      (flag.val % 3 = 2 →
        Bytes.Occurs (Plan.balanceToken network leg) (Plan.dexData leg template) ∧
        12 ≤ Bytes.firstOffset (Plan.balanceToken network leg) (Plan.dexData leg template) ∧
        Bytes.firstOffset (Plan.balanceToken network leg) (Plan.dexData leg template) <
          2 ^ 16 + 12) ∧
      (flag.val % 4 = 2 ∨ flag.val % 4 = 3 →
        (Bytes.Occurs (Bytes.ofNat 32 src) (Plan.dexData leg template) ∧
          Bytes.firstOffset (Bytes.ofNat 32 src) (Plan.dexData leg template) < 2 ^ 16) ∧
        Bytes.Occurs (Bytes.ofNat 32 dest) (Plan.dexData leg template) ∧
          Bytes.firstOffset (Bytes.ofNat 32 dest) (Plan.dexData leg template) < 2 ^ 16)) ∧
    (∀ call, dexCall network leg template flag = .ok call →
      call.encode = Plan.dexHeader network leg template flag src dest ++
          Plan.dexData leg template ∧
        (Plan.dexHeader network leg template flag src dest).length = 33) ∧
    ∀ fault, dexCall network leg template flag = .error fault ↔
      Check.FirstFault (Plan.dexChecks network leg template flag src dest) fault := by
  have decides := dexCall_decides strict readSrc srcFits readDest destFits template flag
  refine ⟨?_, fun call made => ?_, fun fault => decides.eq_error_iff⟩
  · rw [← Plan.dexChecks_pass_iff network]
    constructor
    · rintro ⟨call, made⟩
      exact (decides.eq_ok_iff.mp made).1
    · exact fun passed => ⟨_, decides.of_passed passed⟩
  · obtain ⟨passed, rfl⟩ := decides.eq_ok_iff.mp made
    exact ⟨encode_patchedDex passed, Plan.length_dexHeader _ _ _ _ _ _⟩

/-- Where the patterns stand in the data of the template. -/
theorem searched_fullTemplate :
    (Plan.dexData (Sample.leg Sample.native Sample.token 100) Sample.fullTemplate).length = 132 ∧
      Bytes.IsFirst (Plan.balanceToken Sample.network (Sample.leg Sample.native Sample.token 100))
        (Plan.dexData (Sample.leg Sample.native Sample.token 100) Sample.fullTemplate) 16 ∧
      Bytes.IsFirst (Bytes.ofNat 32 1000)
        (Plan.dexData (Sample.leg Sample.native Sample.token 100) Sample.fullTemplate) 36 ∧
      Bytes.IsFirst (Bytes.ofNat 32 999)
        (Plan.dexData (Sample.leg Sample.native Sample.token 100) Sample.fullTemplate) 68 := by
  rw [Plan.dexData, Sample.fullTemplate, HexData.content_ofBytes]
  decide +kernel

/-- Flag 11 has all three positions looked up. -/
theorem dexCall_ends_with_flag_eleven :
    Sample.network.Strict ∧
      Amount.value (Sample.leg Sample.native Sample.token 100).srcAmount = .ok (1000 : Nat) ∧
      Amount.value (Sample.leg Sample.native Sample.token 100).destAmount = .ok (999 : Nat) ∧
      Plan.points Sample.network (Sample.leg Sample.native Sample.token 100) Sample.fullTemplate 11
        1000 999 = ⟨36, 68, 4⟩ ∧
      ∃ call, dexCall Sample.network (Sample.leg Sample.native Sample.token 100)
          Sample.fullTemplate 11 = .ok call ∧
        call.encode = Plan.dexHeader Sample.network (Sample.leg Sample.native Sample.token 100)
            Sample.fullTemplate 11 1000 999 ++
          Plan.dexData (Sample.leg Sample.native Sample.token 100) Sample.fullTemplate := by
  have readSrc : Amount.value (Sample.leg Sample.native Sample.token 100).srcAmount =
      .ok (1000 : Nat) := by
    decide +kernel
  have readDest : Amount.value (Sample.leg Sample.native Sample.token 100).destAmount =
      .ok (999 : Nat) := by
    decide +kernel
  obtain ⟨size, token, source, destination⟩ := searched_fullTemplate
  obtain ⟨made, ends, -⟩ := dexCall_ends_iff Sample.strict_network readSrc (by decide +kernel) readDest
    (by decide +kernel) Sample.fullTemplate 11
  obtain ⟨call, made⟩ := made.mpr ⟨by omega,
    fun _ => ⟨⟨16, token.1⟩, by rw [token.firstOffset_eq]; decide⟩,
    fun _ => ⟨⟨⟨36, source.1⟩, by rw [source.firstOffset_eq]; decide⟩,
      ⟨68, destination.1⟩, by rw [destination.firstOffset_eq]; decide⟩⟩
  refine ⟨Sample.strict_network, readSrc, readDest, ?_, call, made, (ends call made).1⟩
  rw [Plan.points, source.firstOffset_eq, destination.firstOffset_eq, token.firstOffset_eq]
  rfl

end Assembly

end SwapCompiler
