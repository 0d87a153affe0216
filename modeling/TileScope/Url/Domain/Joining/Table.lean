import TileScope.Text.Block

/-!
# How letters join

The letters that join their neighbours in writing, and the letter that is passed over like a mark.
The tables hold the data of version 17 of the Unicode standard.
-/

namespace TileScope.Url.Domain

open Text (Block)

/-- The letters that join on both sides. -/
def bothSidesBlocks : List Block :=
  [
    ⟨0x0620, 0x0620⟩, ⟨0x0626, 0x0626⟩, ⟨0x0628, 0x0628⟩, ⟨0x062a, 0x062e⟩, ⟨0x0633, 0x063f⟩,
    ⟨0x0641, 0x0647⟩, ⟨0x0649, 0x064a⟩, ⟨0x066e, 0x066f⟩, ⟨0x0679, 0x0687⟩, ⟨0x069a, 0x06bf⟩,
    ⟨0x06c1, 0x06c2⟩, ⟨0x06cc, 0x06cc⟩, ⟨0x06ce, 0x06ce⟩, ⟨0x06d0, 0x06d1⟩, ⟨0x06fa, 0x06fc⟩,
    ⟨0x06ff, 0x06ff⟩, ⟨0x0712, 0x0714⟩, ⟨0x071a, 0x071d⟩, ⟨0x071f, 0x0727⟩, ⟨0x0729, 0x0729⟩,
    ⟨0x072b, 0x072b⟩, ⟨0x072d, 0x072e⟩, ⟨0x074e, 0x0758⟩, ⟨0x075c, 0x076a⟩, ⟨0x076d, 0x0770⟩,
    ⟨0x0772, 0x0772⟩, ⟨0x0775, 0x0777⟩, ⟨0x077a, 0x077f⟩, ⟨0x07ca, 0x07ea⟩, ⟨0x0841, 0x0845⟩,
    ⟨0x0848, 0x0848⟩, ⟨0x084a, 0x0853⟩, ⟨0x0855, 0x0855⟩, ⟨0x0860, 0x0860⟩, ⟨0x0862, 0x0865⟩,
    ⟨0x0868, 0x0868⟩, ⟨0x0886, 0x0886⟩, ⟨0x0889, 0x088d⟩, ⟨0x088f, 0x088f⟩, ⟨0x08a0, 0x08a9⟩,
    ⟨0x08af, 0x08b0⟩, ⟨0x08b3, 0x08b8⟩, ⟨0x08ba, 0x08c8⟩, ⟨0x1807, 0x1807⟩, ⟨0x1820, 0x1878⟩,
    ⟨0x1887, 0x18a8⟩, ⟨0x18aa, 0x18aa⟩, ⟨0xa840, 0xa871⟩, ⟨0x10ac0, 0x10ac4⟩, ⟨0x10ad3, 0x10ad6⟩,
    ⟨0x10ad8, 0x10adc⟩, ⟨0x10ade, 0x10ae0⟩, ⟨0x10aeb, 0x10aee⟩, ⟨0x10b80, 0x10b80⟩,
    ⟨0x10b82, 0x10b82⟩, ⟨0x10b86, 0x10b88⟩, ⟨0x10b8a, 0x10b8b⟩, ⟨0x10b8d, 0x10b8d⟩,
    ⟨0x10b90, 0x10b90⟩, ⟨0x10bad, 0x10bae⟩, ⟨0x10d01, 0x10d21⟩, ⟨0x10d23, 0x10d23⟩,
    ⟨0x10ec3, 0x10ec4⟩, ⟨0x10ec6, 0x10ec7⟩, ⟨0x10f30, 0x10f32⟩, ⟨0x10f34, 0x10f44⟩,
    ⟨0x10f51, 0x10f53⟩, ⟨0x10f70, 0x10f73⟩, ⟨0x10f76, 0x10f81⟩, ⟨0x10fb0, 0x10fb0⟩,
    ⟨0x10fb2, 0x10fb3⟩, ⟨0x10fb8, 0x10fb8⟩, ⟨0x10fbb, 0x10fbc⟩, ⟨0x10fbe, 0x10fbf⟩,
    ⟨0x10fc1, 0x10fc1⟩, ⟨0x10fc4, 0x10fc4⟩, ⟨0x10fca, 0x10fca⟩, ⟨0x1e922, 0x1e943⟩
  ]

/-- The letters that join the letter behind them only. -/
def behindOnlyBlocks : List Block :=
  [
    ⟨0xa872, 0xa872⟩, ⟨0x10acd, 0x10acd⟩, ⟨0x10ad7, 0x10ad7⟩, ⟨0x10d00, 0x10d00⟩, ⟨0x10fcb, 0x10fcb⟩
  ]

/-- The letters that join the letter before them only. -/
def beforeOnlyBlocks : List Block :=
  [
    ⟨0x0622, 0x0625⟩, ⟨0x0627, 0x0627⟩, ⟨0x0629, 0x0629⟩, ⟨0x062f, 0x0632⟩, ⟨0x0648, 0x0648⟩,
    ⟨0x0671, 0x0673⟩, ⟨0x0688, 0x0699⟩, ⟨0x06c0, 0x06c0⟩, ⟨0x06c3, 0x06cb⟩, ⟨0x06cd, 0x06cd⟩,
    ⟨0x06cf, 0x06cf⟩, ⟨0x06d2, 0x06d3⟩, ⟨0x06d5, 0x06d5⟩, ⟨0x06ee, 0x06ef⟩, ⟨0x0710, 0x0710⟩,
    ⟨0x0715, 0x0719⟩, ⟨0x071e, 0x071e⟩, ⟨0x0728, 0x0728⟩, ⟨0x072a, 0x072a⟩, ⟨0x072c, 0x072c⟩,
    ⟨0x072f, 0x072f⟩, ⟨0x074d, 0x074d⟩, ⟨0x0759, 0x075b⟩, ⟨0x076b, 0x076c⟩, ⟨0x0771, 0x0771⟩,
    ⟨0x0773, 0x0774⟩, ⟨0x0778, 0x0779⟩, ⟨0x0840, 0x0840⟩, ⟨0x0846, 0x0847⟩, ⟨0x0849, 0x0849⟩,
    ⟨0x0854, 0x0854⟩, ⟨0x0856, 0x0858⟩, ⟨0x0867, 0x0867⟩, ⟨0x0869, 0x0882⟩, ⟨0x088e, 0x088e⟩,
    ⟨0x08aa, 0x08ac⟩, ⟨0x08ae, 0x08ae⟩, ⟨0x08b1, 0x08b2⟩, ⟨0x08b9, 0x08b9⟩, ⟨0x10ac5, 0x10ac5⟩,
    ⟨0x10ac7, 0x10ac7⟩, ⟨0x10ac9, 0x10aca⟩, ⟨0x10ace, 0x10ad2⟩, ⟨0x10add, 0x10add⟩,
    ⟨0x10ae1, 0x10ae1⟩, ⟨0x10ae4, 0x10ae4⟩, ⟨0x10aef, 0x10aef⟩, ⟨0x10b81, 0x10b81⟩,
    ⟨0x10b83, 0x10b85⟩, ⟨0x10b89, 0x10b89⟩, ⟨0x10b8c, 0x10b8c⟩, ⟨0x10b8e, 0x10b8f⟩,
    ⟨0x10b91, 0x10b91⟩, ⟨0x10ba9, 0x10bac⟩, ⟨0x10d22, 0x10d22⟩, ⟨0x10ec2, 0x10ec2⟩,
    ⟨0x10f33, 0x10f33⟩, ⟨0x10f54, 0x10f54⟩, ⟨0x10f74, 0x10f75⟩, ⟨0x10fb4, 0x10fb6⟩,
    ⟨0x10fb9, 0x10fba⟩, ⟨0x10fbd, 0x10fbd⟩, ⟨0x10fc2, 0x10fc3⟩, ⟨0x10fc9, 0x10fc9⟩
  ]

/-- The letters that are passed over. -/
def passedBlocks : List Block :=
  [
    ⟨0x1e94b, 0x1e94b⟩
  ]

end TileScope.Url.Domain
