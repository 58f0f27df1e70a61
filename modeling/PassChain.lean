import PassChain.Demo
import PassChain.Main
import PassChain.Proofs.Channels
import PassChain.Proofs.EarlierFrames
import PassChain.Proofs.Feedback
import PassChain.Proofs.FieldBytes
import PassChain.Proofs.FirstDraws
import PassChain.Proofs.FrameCounter
import PassChain.Proofs.Orientation
import PassChain.Proofs.Ownership
import PassChain.Proofs.PaddedTargets
import PassChain.Proofs.PresetDocuments
import PassChain.Proofs.QuadCache
import PassChain.Proofs.RelativeFiles
import PassChain.Proofs.Retries
import PassChain.Proofs.ScaledAxes
import PassChain.Proofs.ShownFrames
import PassChain.Proofs.StalePixels
import PassChain.Proofs.TargetReuse
import PassChain.Proofs.TextureNames
import PassChain.Refusing
