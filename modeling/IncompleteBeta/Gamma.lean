/-
**The logarithms of the gamma and beta functions.**

* `logGamma`: Lanczos' approximation with nine coefficients, in log space, so that large arguments
  never overflow; a small argument is raised by one first, by `Γ (x) = Γ (x + 1) / x`;
* `logBeta`: from shape 10 on, the leading Stirling terms of the three gammas are cancelled on paper
  and only the correction series is subtracted.
-/

import IncompleteBeta.Binary64.Exponential

namespace IncompleteBeta

open Binary64 (nan)
open Elementary (ln lnOnePlus)

variable [Elementary]

def halfLnTwoPi : Float := 0.9189385332046728

/-! ### The gamma function -/

/-- The numerators of Lanczos' sum after its constant term. -/
def lanczosNumerators : List Float :=
  [676.5203681218851, -1259.1392167224028, 771.3234287776531, -176.6150291621406,
    12.507343278686905, -0.13857109526572012, 9.984369578019572e-6, 1.5056327351493116e-7]

/-- Lanczos' sum at `z`: the constant term, then each numerator over `z + 1`, `z + 2`, …, added in
this order. -/
def lanczosSum (z : Float) : Float :=
  (lanczosNumerators.foldl (fun (sum, index) numerator =>
    (sum + numerator / (z + index), index + 1.0)) (0.9999999999998099, 1.0)).1

/-- The logarithm of the gamma function from one half on. -/
def logGammaLanczos (x : Float) : Float :=
  let z := x - 1.0
  let t := z + 7.0 + 0.5
  halfLnTwoPi + (z + 0.5) * ln t - t + ln (lanczosSum z)

/-- The logarithm of the gamma function at positive arguments, and not a number elsewhere. -/
def logGamma (x : Float) : Float :=
  if x.isNaN || x ≤ 0.0 then nan
  else if x < 0.5 then logGammaLanczos (x + 1.0) - ln x
  else logGammaLanczos x

/-! ### The beta function -/

/-- The shape from which Stirling's series is accurate to the last digit. -/
def stirlingMin : Float := 10.0

/-- What Stirling's leading terms leave of the logarithm of the gamma function. -/
def stirlingCorrection (x : Float) : Float :=
  let r := 1.0 / x
  let r2 := r * r
  r * (1.0 / 12.0
    + r2 * (-1.0 / 360.0
      + r2 * (1.0 / 1260.0
        + r2 * (-1.0 / 1680.0 + r2 * (1.0 / 1188.0 + r2 * (-691.0 / 360360.0))))))

/-- The logarithm of the beta function for shapes in ascending order. -/
def logBetaSorted (p q : Float) : Float :=
  let s := p + q
  if stirlingMin ≤ p then
    let leading := -0.5 * ln q
    let corrections := stirlingCorrection p + stirlingCorrection q - stirlingCorrection s
    leading + halfLnTwoPi + corrections + (p - 0.5) * ln (p / s) + q * lnOnePlus (-p / s)
  else if stirlingMin ≤ q then
    let corrections := stirlingCorrection q - stirlingCorrection s
    logGamma p + corrections + p - p * ln s + (q - 0.5) * lnOnePlus (-p / s)
  else
    logGamma p + logGamma q - logGamma s

def logBeta (a b : Float) : Float :=
  if a < b then logBetaSorted a b else logBetaSorted b a

end IncompleteBeta
