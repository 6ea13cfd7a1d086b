namespace NetBridge

/-- The flag word of an interface, as the kernel holds it. -/
structure LinkFlags where
  bits : BitVec 16
deriving DecidableEq, Repr

namespace LinkFlags

def up : LinkFlags := ⟨0x1⟩
def broadcast : LinkFlags := ⟨0x2⟩
def loopback : LinkFlags := ⟨0x8⟩
def multicast : LinkFlags := ⟨0x1000⟩

def union (a b : LinkFlags) : LinkFlags := ⟨a.bits ||| b.bits⟩

def isUp (flags : LinkFlags) : Bool := flags.bits.getLsbD 0

/-- The same word with the up bit as requested. -/
def setUp (flags : LinkFlags) (on : Bool) : LinkFlags :=
  if on then ⟨flags.bits ||| up.bits⟩ else ⟨flags.bits &&& ~~~up.bits⟩

/-- The word read as a signed number, as the kernel interface declares it. -/
def toInt (flags : LinkFlags) : Int := flags.bits.toInt

def ofInt (value : Int) : LinkFlags := ⟨BitVec.ofInt 16 value⟩

theorem getLsbD_setUp (flags : LinkFlags) (on : Bool) (i : Nat) :
    (flags.setUp on).bits.getLsbD i = if i = 0 then on else flags.bits.getLsbD i := by
  by_cases inside : i < 16
  · cases on
    · simp only [setUp, up, Bool.false_eq_true, if_false, BitVec.getLsbD_and, BitVec.getLsbD_not,
        inside, decide_true, Bool.true_and]
      by_cases first : i = 0 <;> simp [first]
    · simp only [setUp, up, if_true, BitVec.getLsbD_or]
      by_cases first : i = 0 <;> simp [first]
  · rw [BitVec.getLsbD_of_ge _ _ (by omega), BitVec.getLsbD_of_ge _ _ (by omega),
      if_neg (by omega)]

theorem isUp_setUp (flags : LinkFlags) (on : Bool) : (flags.setUp on).isUp = on := by
  rw [isUp, getLsbD_setUp, if_pos rfl]

theorem ext_getLsbD {a b : LinkFlags} (same : ∀ i, a.bits.getLsbD i = b.bits.getLsbD i) : a = b :=
  congrArg mk (BitVec.eq_of_getLsbD_eq fun i _ => same i)

theorem setUp_isUp (flags : LinkFlags) : flags.setUp flags.isUp = flags := by
  refine ext_getLsbD fun i => ?_
  rw [getLsbD_setUp]
  split
  · next first => rw [first, isUp]
  · rfl

theorem setUp_setUp (flags : LinkFlags) (before on : Bool) :
    (flags.setUp before).setUp on = flags.setUp on := by
  refine ext_getLsbD fun i => ?_
  rw [getLsbD_setUp, getLsbD_setUp, getLsbD_setUp]
  split <;> rfl

end LinkFlags

end NetBridge
